import PathTiming.Proofs.PatternLanguage
import PathTiming.Pattern.Search

/-! Programs match what their expressions match. A writer is correct for a relation between
positions if its steps lead to the next step exactly along this relation; what else the program
holds does not matter, so that the parts of an expression can be written one after another. -/
namespace PathTiming.Pattern

namespace Program
variable {p : Program} {text : Array Char}

/-- So many moves of the program lead from one thread to another. -/
inductive Reaches (p : Program) (text : Array Char) : Nat → Thread → Thread → Prop
  | here (t : Thread) : Reaches p text 0 t t
  | move {n : Nat} {t u v : Thread} :
    u ∈ p.successors text t → Reaches p text n u v → Reaches p text (n + 1) t v

theorem Reaches.trans {n m : Nat} {t u v : Thread} (h : p.Reaches text n t u)
    (h' : p.Reaches text m u v) : p.Reaches text (n + m) t v := by
  induction h with
  | here => rwa [Nat.zero_add]
  | move hmove _ ih =>
    rw [Nat.add_right_comm]
    exact .move hmove (ih h')

/-! ### The moves of one step -/

section
variable {t u : Thread}

theorem mem_successors_take {chars : Charset} {next : Nat}
    (h : p.code[t.step]? = some (.take chars next)) : u ∈ p.successors text t ↔
      (∃ c, text[t.position]? = some c ∧ chars.contains c.toNat = true) ∧
        u = { t with step := next, position := t.position + 1 } := by
  unfold successors
  rw [h]
  cases text[t.position]? with
  | none => simp
  | some c => by_cases hc : chars.contains c.toNat = true <;> simp [hc]

theorem mem_successors_look {condition : Look} {next : Nat}
    (h : p.code[t.step]? = some (.look condition next)) : u ∈ p.successors text t ↔
      condition.HoldsAt text t.position ∧ u = { t with step := next } := by
  unfold successors Look.HoldsAt
  rw [h]
  dsimp only
  generalize condition.holds _ _ = holds
  cases holds <;> simp

theorem mem_successors_save {slot next : Nat} (h : p.code[t.step]? = some (.save slot next)) :
    u ∈ p.successors text t ↔
      u = { t with step := next, slots := t.slots.setIfInBounds slot (some t.position) } := by
  unfold successors
  rw [h]
  exact List.mem_singleton

theorem mem_successors_choice {greedy : Bool} {body next : Nat}
    (h : p.code[t.step]? = some (.choice greedy body next)) :
    u ∈ p.successors text t ↔ u = { t with step := body } ∨ u = { t with step := next } := by
  unfold successors
  rw [h]
  cases greedy with
  | true => simp [Step.choice]
  | false => simp [Step.choice, or_comm]

theorem successors_of_accepts (h : p.accepts t = true) : p.successors text t = [] := by
  unfold accepts at h
  unfold successors
  split at h
  · rename_i hstep
    rw [hstep]
  · cases h

end

/-! ### From one step to another -/

structure SameWhole (a b : Slots) : Prop where
  size : a.size = b.size
  start : a[0]? = b[0]?
  stop : a[1]? = b[1]?

theorem SameWhole.refl (a : Slots) : SameWhole a a := ⟨rfl, rfl, rfl⟩

theorem SameWhole.trans {a b c : Slots} (h : SameWhole a b) (h' : SameWhole b c) :
    SameWhole a c :=
  ⟨h.size.trans h'.size, h.start.trans h'.start, h.stop.trans h'.stop⟩

theorem SameWhole.setIfInBounds (a : Slots) {slot : Nat} (h : 2 ≤ slot) (position : Option Nat) :
    SameWhole a (a.setIfInBounds slot position) := by
  constructor
  · simp
  · rw [Array.getElem?_setIfInBounds_ne (by omega)]
  · rw [Array.getElem?_setIfInBounds_ne (by omega)]

/-- The program comes from step `x` to step `next` exactly between the positions that `m` relates:
it can do so, and it cannot reach the end of a match otherwise. On the way, it leaves the slots of
group 0 alone. -/
structure Leads (p : Program) (text : Array Char) (m : Nat → Nat → Prop) (x next : Nat) :
    Prop where
  complete : ∀ t : Thread, t.step = x → ∀ k, m t.position k →
    ∃ n u, p.Reaches text n t u ∧ u.step = next ∧ u.position = k
  sound : ∀ n (t v : Thread), t.step = x → p.Reaches text n t v → p.accepts v = true →
    ∃ k ≤ n, ∃ u : Thread, m t.position u.position ∧ u.step = next ∧
      SameWhole t.slots u.slots ∧ p.Reaches text k u v

namespace Leads
variable {m m' : Nat → Nat → Prop} {x y next : Nat}

theorem congr (h : p.Leads text m x next) (hm : ∀ i j, m i j ↔ m' i j) :
    p.Leads text m' x next := by
  obtain rfl : m = m' := funext fun i => funext fun j => propext (hm i j)
  exact h

theorem refl (x : Nat) : p.Leads text Eq x x where
  complete := by
    rintro t ht _ rfl
    exact ⟨0, t, .here t, ht, rfl⟩
  sound := fun n t v ht hreach _ => ⟨n, Nat.le_refl n, t, rfl, ht, .refl _, hreach⟩

theorem trans (h : p.Leads text m x y) (h' : p.Leads text m' y next) :
    p.Leads text (fun i j => ∃ k, m i k ∧ m' k j) x next where
  complete := by
    rintro t ht j ⟨k, hk, hj⟩
    obtain ⟨n, u, hu, hstep, rfl⟩ := h.complete t ht k hk
    obtain ⟨n', v, hv, hnext⟩ := h'.complete u hstep j hj
    exact ⟨n + n', v, hu.trans hv, hnext⟩
  sound := by
    intro n t v ht hreach hv
    obtain ⟨k, hk, u, hm, hu, hsame, hrest⟩ := h.sound n t v ht hreach hv
    obtain ⟨k', hk', u', hm', hu', hsame', hrest'⟩ := h'.sound k u v hu hrest hv
    exact ⟨k', Nat.le_trans hk' hk, u', ⟨_, hm, hm'⟩, hu', hsame.trans hsame', hrest'⟩

/-- A thread that still has to move does so. -/
theorem exists_move {n : Nat} {t v : Thread} (h : p.Reaches text n t v) (hv : p.accepts v = true)
    (ht : p.accepts t = false) :
    ∃ k < n, ∃ u ∈ p.successors text t, p.Reaches text k u v := by
  cases h with
  | here =>
    rw [hv] at ht
    cases ht
  | move hmove hrest => exact ⟨_, Nat.lt_succ_self _, _, hmove, hrest⟩

/-- A step from which there is at most one move. -/
theorem single (moved : Thread → Thread)
    (haccepts : ∀ t : Thread, t.step = x → p.accepts t = false)
    (hmoves : ∀ t u : Thread, t.step = x →
      (u ∈ p.successors text t ↔ m t.position (moved t).position ∧ u = moved t))
    (hposition : ∀ (t : Thread) k, m t.position k → k = (moved t).position)
    (hnext : ∀ t, (moved t).step = next) (hslots : ∀ t, SameWhole t.slots (moved t).slots) :
    p.Leads text m x next where
  complete := by
    intro t ht k hk
    obtain rfl := hposition t k hk
    exact ⟨1, moved t, .move ((hmoves t _ ht).mpr ⟨hk, rfl⟩) (.here _), hnext t, rfl⟩
  sound := by
    intro n t v ht hreach hv
    obtain ⟨k, hk, u, hu, hrest⟩ := exists_move hreach hv (haccepts t ht)
    obtain ⟨hm, rfl⟩ := (hmoves t u ht).mp hu
    exact ⟨k, Nat.le_of_lt hk, moved t, hm, hnext t, hslots t, hrest⟩

theorem take {chars : Charset} (h : p.code[x]? = some (.take chars next)) :
    p.Leads text (fun i j => ∃ c, text[i]? = some c ∧ chars.contains c.toNat = true ∧ j = i + 1)
      x next := by
  refine single (fun t => { t with step := next, position := t.position + 1 }) ?_ ?_ ?_
    (fun _ => rfl) fun t => .refl t.slots
  · rintro t rfl
    simp [accepts, h]
  · rintro t u rfl
    simp [mem_successors_take h]
  · rintro t _ ⟨c, -, -, rfl⟩
    rfl

theorem look {condition : Look} (h : p.code[x]? = some (.look condition next)) :
    p.Leads text (fun i j => condition.HoldsAt text i ∧ i = j) x next := by
  refine single (fun t => { t with step := next }) ?_ ?_ ?_ (fun _ => rfl) fun t => .refl t.slots
  · rintro t rfl
    simp [accepts, h]
  · rintro t u rfl
    simp [mem_successors_look h]
  · rintro t _ ⟨-, rfl⟩
    rfl

theorem save {slot : Nat} (h : p.code[x]? = some (.save slot next)) (hslot : 2 ≤ slot) :
    p.Leads text Eq x next := by
  refine single
    (fun t => { t with step := next, slots := t.slots.setIfInBounds slot (some t.position) })
    ?_ ?_ ?_ (fun _ => rfl) fun t => .setIfInBounds t.slots hslot _
  · rintro t rfl
    simp [accepts, h]
  · rintro t u rfl
    simp [mem_successors_save h]
  · rintro t _ rfl
    rfl

/-- A choice between two ways. -/
theorem choice {greedy : Bool} {a b : Nat} (h : p.code[x]? = some (.choice greedy a b))
    (ha : p.Leads text m a next) (hb : p.Leads text m' b next) :
    p.Leads text (fun i j => m i j ∨ m' i j) x next where
  complete := by
    rintro t rfl j (hj | hj)
    · obtain ⟨n, u, hu, hnext⟩ := ha.complete { t with step := a } rfl j hj
      exact ⟨n + 1, u, .move ((mem_successors_choice h).mpr (.inl rfl)) hu, hnext⟩
    · obtain ⟨n, u, hu, hnext⟩ := hb.complete { t with step := b } rfl j hj
      exact ⟨n + 1, u, .move ((mem_successors_choice h).mpr (.inr rfl)) hu, hnext⟩
  sound := by
    rintro n t v rfl hreach hv
    have hstep : p.accepts t = false := by cases greedy <;> simp [accepts, h, Step.choice]
    obtain ⟨k, hk, u, hu, hrest⟩ := exists_move hreach hv hstep
    obtain rfl | rfl := (mem_successors_choice h).mp hu
    · obtain ⟨k', hk', u', hm, hu'⟩ := ha.sound k _ v rfl hrest hv
      exact ⟨k', Nat.le_trans hk' (Nat.le_of_lt hk), u', .inl hm, hu'⟩
    · obtain ⟨k', hk', u', hm, hu'⟩ := hb.sound k _ v rfl hrest hv
      exact ⟨k', Nat.le_trans hk' (Nat.le_of_lt hk), u', .inr hm, hu'⟩

/-- A choice to go on or to come back through a body makes any number of rounds. -/
theorem loop {greedy : Bool} {body : Nat} (h : p.code[x]? = some (.choice greedy body next))
    (hbody : p.Leads text m body x) : p.Leads text (fun i j => ∃ r, Rounds m r i j) x next where
  complete := by
    rintro t rfl j ⟨r, hrounds⟩
    generalize hi : t.position = i at hrounds
    induction hrounds generalizing t with
    | none i =>
      exact ⟨1, _, .move ((mem_successors_choice h).mpr (.inr rfl)) (.here _), rfl, hi⟩
    | more hround _ ih =>
      subst hi
      obtain ⟨n, u, hu, hstep, rfl⟩ := hbody.complete { t with step := body } rfl _ hround
      obtain ⟨n', v, hv, hnext⟩ := ih u (hstep ▸ h) (hstep ▸ hbody) rfl
      exact ⟨n + 1 + n', v, (Reaches.move ((mem_successors_choice h).mpr (.inl rfl)) hu).trans hv,
        hnext⟩
  sound := by
    -- the rounds are counted off by the moves that remain
    intro n
    induction n using Nat.strongRecOn with
    | _ n ih =>
    rintro t v rfl hreach hv
    have hstep : p.accepts t = false := by cases greedy <;> simp [accepts, h, Step.choice]
    obtain ⟨k, hk, u, hu, hrest⟩ := exists_move hreach hv hstep
    obtain rfl | rfl := (mem_successors_choice h).mp hu
    · obtain ⟨k₁, hk₁, u₁, hround, hu₁, hsame₁, hrest₁⟩ := hbody.sound k _ v rfl hrest hv
      obtain ⟨k₂, hk₂, u₂, ⟨r, hrounds⟩, hu₂, hsame₂, hrest₂⟩ :=
        ih k₁ (by omega) u₁ v hu₁ hrest₁ hv
      exact ⟨k₂, by omega, u₂, ⟨r + 1, .more hround hrounds⟩, hu₂, hsame₁.trans hsame₂, hrest₂⟩
    · exact ⟨k, Nat.le_of_lt hk, { t with step := next }, ⟨0, .none _⟩, rfl, .refl _, hrest⟩

end Leads

/-- The program has the steps of `code` from position `low` on. -/
def Holds (p : Program) (low : Nat) (code : Array Step) : Prop :=
  ∀ x, low ≤ x → x < code.size → p.code[x]? = code[x]?

end Program

open Program (Leads Holds)

/-! ### What writers add -/

/-- Steps were added to `code`. -/
structure Extends (code code' : Array Step) : Prop where
  size_le : code.size ≤ code'.size
  get?_eq : ∀ x < code.size, code'[x]? = code[x]?

namespace Extends
variable {code code' code'' : Array Step}

theorem refl (code : Array Step) : Extends code code := ⟨Nat.le_refl _, fun _ _ => rfl⟩

theorem trans (h : Extends code code') (h' : Extends code' code'') : Extends code code'' := by
  constructor
  · exact Nat.le_trans h.size_le h'.size_le
  · intro x hx
    rw [h'.get?_eq x (Nat.lt_of_lt_of_le hx h.size_le), h.get?_eq x hx]

theorem emit (step : Step) (code : Array Step) : Extends code (emit step code).2 := by
  constructor
  · simp [Pattern.emit]
  · intro x hx
    simp [Pattern.emit, Array.getElem?_push, Nat.ne_of_lt hx]

theorem setIfInBounds (h : Extends code code') {x : Nat} (hx : code.size ≤ x) (step : Step) :
    Extends code (code'.setIfInBounds x step) := by
  constructor
  · simpa using h.size_le
  · intro y hy
    rw [Array.getElem?_setIfInBounds_ne (by omega), h.get?_eq y hy]

/-- What a program holds of the longer code, it holds of the shorter one. -/
theorem holds (h : Extends code code') {p : Program} {low : Nat} (hp : p.Holds low code') :
    p.Holds low code := by
  intro x hlow hx
  rw [hp x hlow (Nat.lt_of_lt_of_le hx h.size_le), h.get?_eq x hx]

end Extends

namespace Program.Holds
variable {p : Program} {low : Nat} {code : Array Step}

theorem mono (h : p.Holds low code) {low' : Nat} (hlow : low ≤ low') : p.Holds low' code :=
  fun x hx => h x (Nat.le_trans hlow hx)

theorem get?_emit {step : Step} (h : p.Holds low (emit step code).2) (hlow : low ≤ code.size) :
    p.code[(emit step code).1]? = some step :=
  (h code.size hlow (by simp [emit])).trans (by simp [emit])

end Program.Holds

/-- The writer adds steps behind those that are there. They lead to the next step as `m` says, in
every program that has them. -/
structure Writer.Writes (w : Writer) (m : Array Char → Nat → Nat → Prop) : Prop where
  extends_code : ∀ next code, Extends code (w next code).2
  leads : ∀ (p : Program) text next code, p.Holds code.size (w next code).2 →
    p.Leads text (m text) (w next code).1 next

/-- Writes both ways and a choice between them, the first preferred. -/
def Writer.either (first second : Writer) : Writer := fun next code =>
  let (x, code) := first next code
  let (y, code) := second next code
  emit (.split x y) code

namespace Writer.Writes
variable {w a b : Writer} {m ma mb : Array Char → Nat → Nat → Prop}

theorem congr (h : w.Writes m) {m' : Array Char → Nat → Nat → Prop}
    (hm : ∀ text i j, m text i j ↔ m' text i j) : w.Writes m' :=
  ⟨h.extends_code, fun p text next code hp => (h.leads p text next code hp).congr (hm text)⟩

/-- Nothing is written. -/
theorem nothing : Writer.Writes (fun next code => (next, code)) fun _ => Eq :=
  ⟨fun _ code => .refl code, fun _ _ next _ _ => .refl next⟩

/-- One step is written. -/
theorem emit {step : Nat → Step}
    (h : ∀ (p : Program) text x next, p.code[x]? = some (step next) →
      p.Leads text (m text) x next) :
    Writer.Writes (fun next code => Pattern.emit (step next) code) m :=
  ⟨fun _ code => .emit _ code, fun p text _ _ hp => h p text _ _ (hp.get?_emit (Nat.le_refl _))⟩

theorem andThen (ha : a.Writes ma) (hb : b.Writes mb) :
    (a.andThen b).Writes fun text i j => ∃ k, ma text i k ∧ mb text k j where
  extends_code := fun next code => (hb.extends_code next code).trans (ha.extends_code _ _)
  leads := by
    intro p text next code hp
    have hbehind : p.Holds code.size (b next code).2 := (ha.extends_code _ _).holds hp
    have hahead : p.Holds (b next code).2.size ((a.andThen b) next code).2 :=
      hp.mono (hb.extends_code next code).size_le
    exact (ha.leads p text _ _ hahead).trans (hb.leads p text _ _ hbehind)

theorem either (ha : a.Writes ma) (hb : b.Writes mb) :
    (a.either b).Writes fun text i j => ma text i j ∨ mb text i j where
  extends_code := fun next code =>
    ((ha.extends_code next code).trans (hb.extends_code _ _)).trans (.emit _ _)
  leads := by
    intro p text next code hp
    have hfirst := ha.extends_code next code
    have hsecond := hb.extends_code next (a next code).2
    have hboth : p.Holds code.size (b next (a next code).2).2 := (Extends.emit _ _).holds hp
    have hx := ha.leads p text next code (hsecond.holds hboth)
    have hy := hb.leads p text next _ (hboth.mono hfirst.size_le)
    have hsplit : p.code[(a.either b next code).1]? = some (.choice true _ _) :=
      hp.get?_emit (Nat.le_trans hfirst.size_le hsecond.size_le)
    exact .choice hsplit hx hy

theorem optional (ha : a.Writes ma) (greedy : Bool) :
    (a.optional greedy).Writes fun text i j => ma text i j ∨ i = j where
  extends_code := fun next code => (ha.extends_code next code).trans (.emit _ _)
  leads := by
    intro p text next code hp
    have hbody := ha.leads p text next code ((Extends.emit _ _).holds hp)
    exact .choice (hp.get?_emit (ha.extends_code next code).size_le) hbody (.refl next)

theorem copies (ha : a.Writes ma) (n : Nat) :
    (a.copies n).Writes fun text => Rounds (ma text) n := by
  induction n with
  | zero => exact nothing.congr fun _ _ _ => Rounds.zero_iff.symm
  | succ n ih => exact (ha.andThen ih).congr fun _ _ _ => Rounds.succ_iff.symm

theorem upTo (ha : a.Writes ma) (greedy : Bool) (n : Nat) :
    (a.upTo greedy n).Writes fun text i j => ∃ r ≤ n, Rounds (ma text) r i j := by
  induction n with
  | zero =>
    refine nothing.congr fun text i j => ?_
    simp [Rounds.zero_iff]
  | succ n ih =>
    refine ((ha.andThen ih).optional greedy).congr fun text i j => ?_
    constructor
    · rintro (⟨k, hround, r, hr, hrounds⟩ | rfl)
      · exact ⟨r + 1, by omega, .more hround hrounds⟩
      · exact ⟨0, by omega, .none i⟩
    · rintro ⟨r, hr, hrounds⟩
      cases hrounds with
      | none => exact .inr rfl
      | more hround hrest => exact .inl ⟨_, hround, _, by omega, hrest⟩

/-- Both kinds of loops write the choice to repeat the body first, at a place that is filled in once
the body is there. -/
theorem loop (ha : a.Writes ma) (greedy : Bool) (next : Nat) (code : Array Step) :
    let again := code.size
    let body := a again (Pattern.emit .fail code).2
    let code' := body.2.setIfInBounds again (.choice greedy body.1 next)
    Extends code code' ∧ ∀ (p : Program) text, p.Holds code.size code' →
      p.Leads text (ma text) body.1 again ∧
      p.Leads text (fun i j => ∃ r, Rounds (ma text) r i j) again next := by
  intro again body code'
  have hfail : Extends code (Pattern.emit .fail code).2 := .emit _ _
  have hbody : Extends (Pattern.emit .fail code).2 body.2 := ha.extends_code _ _
  have hagain : again < body.2.size :=
    Nat.lt_of_lt_of_le (by simp [Pattern.emit, again]) hbody.size_le
  refine ⟨(hfail.trans hbody).setIfInBounds (Nat.le_refl _) _, fun p text hp => ?_⟩
  have hchoice : p.code[again]? = some (.choice greedy body.1 next) := by
    rw [hp again (Nat.le_refl _) (by simpa [code'] using hagain)]
    simp [code', hagain]
  have hsteps : p.Holds (Pattern.emit .fail code).2.size body.2 := by
    intro x hlow hx
    have hne : again ≠ x := by
      simp only [Pattern.emit, Array.size_push] at hlow
      omega
    rw [hp x (Nat.le_trans hfail.size_le hlow) (by simpa [code'] using hx)]
    exact Array.getElem?_setIfInBounds_ne hne
  have hround := ha.leads p text again _ hsteps
  exact ⟨hround, .loop hchoice hround⟩

theorem star (ha : a.Writes ma) (greedy : Bool) :
    (a.star greedy).Writes fun text i j => ∃ r, Rounds (ma text) r i j :=
  ⟨fun next code => (ha.loop greedy next code).1,
    fun p text next code hp => ((ha.loop greedy next code).2 p text hp).2⟩

theorem plus (ha : a.Writes ma) (greedy : Bool) :
    (a.plus greedy).Writes fun text i j => ∃ r, Rounds (ma text) (r + 1) i j where
  extends_code := fun next code => (ha.loop greedy next code).1
  leads := by
    intro p text next code hp
    obtain ⟨hround, hrounds⟩ := (ha.loop greedy next code).2 p text hp
    refine (hround.trans hrounds).congr fun i j => ?_
    simp only [Rounds.succ_iff]
    exact (exists_comm.trans (exists_congr fun k => exists_and_left)).symm

end Writer.Writes

namespace Expr
variable {a : Expr}

theorem writes_literal (cs : List Char) :
    (literal cs).steps.Writes fun text => (literal cs).Matches text := by
  induction cs with
  | nil =>
    refine Writer.Writes.nothing.congr fun text i j => ?_
    simp [Matches, eq_comm]
  | cons c cs ih =>
    have htake : Writer.Writes (fun next code => emit (.take (.single c) next) code) _ :=
      .emit fun p text x next hx => Leads.take hx
    refine (htake.andThen ih).congr fun text i j => ?_
    rw [matches_literal_cons]
    constructor
    · rintro ⟨_, ⟨d, hd, hchar, rfl⟩, hrest⟩
      obtain rfl := Charset.contains_single_iff.mp hchar
      exact ⟨hd, hrest⟩
    · rintro ⟨hc, hrest⟩
      exact ⟨i + 1, ⟨c, hc, Charset.contains_single_iff.mpr rfl, rfl⟩, hrest⟩

/-- A group is written as its expression, as its slots are not those of the whole match. -/
theorem writes_group (ha : a.steps.Writes fun text => a.Matches text) {index : Nat}
    (hindex : 0 ≠ index) : (group index a).steps.Writes fun text => (group index a).Matches text := by
  have hsave : ∀ slot, 2 ≤ slot →
      Writer.Writes (fun next code => emit (.save slot next) code) fun _ => Eq :=
    fun slot hslot => .emit fun p text x next hx => .save hx hslot
  refine ((hsave (2 * index) (by omega)).andThen
    (ha.andThen (hsave (2 * index + 1) (by omega)))).congr fun text i j => ?_
  simp [Matches]

/-- Whichever way a repetition is written, it takes as many rounds as it can match. -/
theorem writes_repeated (ha : a.steps.Writes fun text => a.Matches text) (least : Nat)
    (most : Option Nat) (greedy : Bool) :
    (repeated a least most greedy).steps.Writes fun text =>
      (repeated a least most greedy).Matches text := by
  cases most with
  | none =>
    cases least with
    | zero =>
      unfold steps
      dsimp only
      split
      · refine (ha.star greedy).congr fun text i j => ?_
        simp [Matches]
      · refine ((ha.plus greedy).optional greedy).congr fun text i j => ?_
        simp only [Matches, Nat.zero_add]
        exact Rounds.exists_iff.symm
    | succ least =>
      refine ((ha.copies least).andThen (ha.plus greedy)).congr fun text i j => ?_
      simp only [Matches, Nat.add_right_comm least 1, Nat.add_assoc least, Rounds.add_iff,
        ← exists_and_left]
      exact exists_comm
  | some most =>
    refine ((ha.copies least).andThen (ha.upTo greedy (most - least))).congr fun text i j => ?_
    simp only [Matches, Rounds.add_iff]
    constructor
    · rintro ⟨k, hleast, r, hr, hmore⟩
      exact ⟨r, hr, k, hleast, hmore⟩
    · rintro ⟨r, hr, k, hleast, hmore⟩
      exact ⟨k, hleast, r, hr, hmore⟩

/-- An expression is written as what it matches. Only the slots of group 0 must not be among its
own. -/
theorem writes_steps (e : Expr) (h : 0 ∉ e.groups) :
    e.steps.Writes fun text => e.Matches text := by
  induction e with
  | empty => exact .nothing
  | literal cs => exact writes_literal cs
  | set chars => exact .emit fun p text x next hx => .take hx
  | look condition => exact .emit fun p text x next hx => .look hx
  | seq a b iha ihb =>
    rw [groups, List.mem_append, not_or] at h
    exact (iha h.1).andThen (ihb h.2)
  | alt a b iha ihb =>
    rw [groups, List.mem_append, not_or] at h
    exact (iha h.1).either (ihb h.2)
  | group index a iha =>
    rw [groups, List.mem_cons, not_or] at h
    exact writes_group (iha h.2) h.1
  | repeated a least most greedy iha => exact writes_repeated (iha h) least most greedy

end Expr

/-! ### Whole programs -/

namespace Program
variable {e : Expr} {text : Array Char} {i : Nat}

def firstThread (p : Program) (i : Nat) : Thread := ⟨p.start, i, .replicate p.slotCount none⟩

/-- The steps of a whole program: it notes where the match starts, goes through the expression,
notes where the match stops, and accepts. -/
theorem ofExpr_steps (h : 0 ∉ e.groups) (text : Array Char) : ∃ first,
    (ofExpr e).code[(ofExpr e).start]? = some (.save 0 first) ∧
      (ofExpr e).Leads text (e.Matches text) first 1 ∧
      (ofExpr e).code[1]? = some (.save 1 0) ∧ (ofExpr e).code[0]? = some .accept := by
  let ends : Array Step := #[.accept, .save 1 0]
  have hwrites := e.writes_steps h
  have hbody : Extends ends (e.steps 1 ends).2 := hwrites.extends_code 1 ends
  have hcode : (ofExpr e).code = (emit (.save 0 (e.steps 1 ends).1) (e.steps 1 ends).2).2 := rfl
  have hall : Extends ends (ofExpr e).code := by
    rw [hcode]
    exact hbody.trans (.emit _ _)
  have hholds : (ofExpr e).Holds 0 (ofExpr e).code := fun x _ _ => rfl
  refine ⟨(e.steps 1 ends).1, ?_, ?_, ?_, ?_⟩
  · rw [hcode] at hholds
    exact hholds.get?_emit (Nat.zero_le _)
  · apply hwrites.leads
    rw [hcode] at hholds
    exact ((Extends.emit _ _).holds hholds).mono (Nat.zero_le _)
  · rw [hall.get?_eq 1 (by decide)]
    rfl
  · rw [hall.get?_eq 0 (by decide)]
    rfl

theorem one_lt_slotCount (e : Expr) : 1 < (ofExpr e).slotCount := by
  have hcount : (ofExpr e).slotCount = 2 * max (0 + 1) e.groupCount := rfl
  omega

/-- From the first thread at a position, the program accepts what the expression matches from there
on, and has noted both ends of it. -/
theorem reaches_ofExpr (h : 0 ∉ e.groups) :
    (∀ j, e.Matches text i j → ∃ n v,
      (ofExpr e).Reaches text n ((ofExpr e).firstThread i) v ∧ (ofExpr e).accepts v = true) ∧
    ∀ n v, (ofExpr e).Reaches text n ((ofExpr e).firstThread i) v → (ofExpr e).accepts v = true →
      e.Matches text i v.position ∧ v.slots[0]? = some (some i) ∧
        v.slots[1]? = some (some v.position) := by
  obtain ⟨first, hstart, hleads, hstop, haccept⟩ := ofExpr_steps h text
  let p := ofExpr e
  let t := p.firstThread i
  let t₁ : Thread := { t with step := first, slots := t.slots.setIfInBounds 0 (some t.position) }
  have hslots : t₁.slots[0]? = some (some i) ∧ 1 < t₁.slots.size := by
    have hcount := one_lt_slotCount e
    simp only [t₁, t, p, firstThread, Array.getElem?_setIfInBounds, Array.size_setIfInBounds,
      Array.size_replicate]
    rw [if_pos trivial, if_pos (by omega)]
    exact ⟨rfl, hcount⟩
  constructor
  · intro j hj
    obtain ⟨n, u, hu, hone, rfl⟩ := hleads.complete t₁ rfl j hj
    have hsave : p.code[u.step]? = some (.save 1 0) := by rw [hone]; exact hstop
    let v : Thread := { u with step := 0, slots := u.slots.setIfInBounds 1 (some u.position) }
    have hlast : p.Reaches text 1 u v := .move ((mem_successors_save hsave).mpr rfl) (.here v)
    refine ⟨n + 1 + 1, v, ?_, by simp [accepts, v, haccept]⟩
    exact (Reaches.move ((mem_successors_save hstart).mpr rfl) hu).trans hlast
  · intro n v hreach hv
    obtain ⟨k, -, u, hu, hrest⟩ :=
      Leads.exists_move hreach hv (by simp [accepts, firstThread, hstart])
    obtain rfl := (mem_successors_save hstart).mp hu
    obtain ⟨k, -, u, hmatch, hone, hsame, hrest⟩ := hleads.sound k t₁ v rfl hrest hv
    have hsave : p.code[u.step]? = some (.save 1 0) := by rw [hone]; exact hstop
    obtain ⟨k, -, w, hw, hrest⟩ := Leads.exists_move hrest hv (by simp [accepts, p, hsave])
    obtain rfl := (mem_successors_save hsave).mp hw
    cases hrest with
    | move hmove =>
      rw [successors_of_accepts (by simp [accepts, haccept])] at hmove
      cases hmove
    | here =>
      have hsize : 1 < u.slots.size := by
        rw [← hsame.size]
        exact hslots.2
      refine ⟨hmatch, ?_, ?_⟩
      · rw [Array.getElem?_setIfInBounds_ne (by omega), ← hsame.start]
        exact hslots.1
      · rw [Array.getElem?_setIfInBounds, if_pos rfl, if_pos hsize]

end Program

end PathTiming.Pattern
