import PathTiming.Proofs.ParsedPath
import PathTiming.Proofs.PlainNumber

/-! How far the pins of a path stand from each other. Each pin with a place is measured from the last
one before it on its own side. -/
namespace PathTiming
open Text (Token)

/-! ### The last member that counts -/

/-- What `f` says of the last member that it says anything of. -/
def lastOf {α β : Type} (f : α → Option β) (as : List α) : Option β := (as.filterMap f).getLast?

section
variable {α β : Type} (f : α → Option β)

theorem lastOf_cons (a : α) (as : List α) : lastOf f (a :: as) = (lastOf f as).or (f a) := by
  unfold lastOf
  rw [List.filterMap_cons]
  cases f a with
  | none => exact Option.or_none.symm
  | some b =>
    rw [List.getLast?_cons]
    cases (as.filterMap f).getLast? <;> rfl

theorem lastOf_concat (as : List α) (a : α) :
    lastOf f (as ++ [a]) = (f a).or (lastOf f as) := by
  unfold lastOf
  rw [List.filterMap_append]
  cases ha : f a <;> simp [ha]

variable {f}

theorem lastOf_eq_none_iff {as : List α} : lastOf f as = none ↔ ∀ a ∈ as, f a = none := by
  unfold lastOf
  rw [List.getLast?_eq_none_iff, List.filterMap_eq_nil_iff]

theorem lastOf_eq_some_iff {as : List α} {b : β} : lastOf f as = some b ↔
    ∃ before a after, as = before ++ a :: after ∧ f a = some b ∧ ∀ c ∈ after, f c = none :=
  getLast?_filterMap_eq_some

end

/-! ### Places in rows -/

def IsGroup (ts : List Token) : Prop :=
  ∃ before last, ts = before ++ [last] ∧ last.text.getLast? = some ')' ∧
    ∀ t ∈ before, t.text.getLast? ≠ some ')'

/-- The groups in parentheses among the words of a row. A group begins with a word that opens a
parenthesis, and holds the blanks between its words. -/
inductive RowGroups : List Token → List (List Char) → Prop
  | nil : RowGroups [] []
  | word {t : Token} {ts : List Token} {groups : List (List Char)}
      (ht : t.text.head? ≠ some '(') (h : RowGroups ts groups) : RowGroups (t :: ts) groups
  | group {t : Token} {ts after : List Token} {groups : List (List Char)}
      (ht : t.text.head? = some '(') (hts : IsGroup (t :: ts)) (h : RowGroups after groups) :
      RowGroups (t :: ts ++ after) (joinTokens (t :: ts) :: groups)

def IsLastPlace (groups : List (List Char)) : Option (Float × Float) → Prop
  | none => ∀ group ∈ groups, ∀ place, ¬ IsPlace group place
  | some place => ∃ before group after, groups = before ++ group :: after ∧ IsPlace group place ∧
      ∀ other ∈ after, ∀ place, ¬ IsPlace other place

/-- The place that a row names. The first of its groups is the cell. -/
def NamesPlace (text : List Char) (place : Option (Float × Float)) : Prop :=
  ∃ name words cell groups, Text.tokens text = name :: words ∧
    RowGroups words (cell :: groups) ∧ IsLastPlace groups place

theorem splitGroup?_eq_some_iff {ts group after : List Token} :
    splitGroup? ts = some (group, after) ↔ ts = group ++ after ∧ IsGroup group := by
  constructor
  · intro h
    induction ts generalizing group with
    | nil => cases h
    | cons t ts ih =>
      unfold splitGroup? at h
      split_ifs at h with hclose
      · cases h
        exact ⟨rfl, [], t, rfl, hclose, fun t ht => absurd ht List.not_mem_nil⟩
      · obtain ⟨⟨group', after'⟩, hsplit, heq⟩ := Option.map_eq_some_iff.mp h
        cases heq
        obtain ⟨rfl, before, last, rfl, hlast, hbefore⟩ := ih hsplit
        exact ⟨rfl, t :: before, last, rfl, hlast, List.forall_mem_cons.mpr ⟨hclose, hbefore⟩⟩
  · rintro ⟨rfl, before, last, rfl, hlast, hbefore⟩
    induction before with
    | nil => simp [splitGroup?, hlast]
    | cons t before ih =>
      obtain ⟨ht, hbefore⟩ := List.forall_mem_cons.mp hbefore
      rw [List.cons_append, List.cons_append, splitGroup?, if_neg ht, ih hbefore]
      rfl

/-- The words of a row make its groups in one way only. -/
theorem RowGroups.unique {ts : List Token} {groups groups' : List (List Char)}
    (h : RowGroups ts groups) (h' : RowGroups ts groups') : groups = groups' := by
  induction h generalizing groups' with
  | nil =>
    cases h'
    rfl
  | word ht _ ih =>
    cases h' with
    | word _ h' => exact ih h'
    | group ht' _ _ => exact absurd ht' ht
  | @group t ts after groups ht hts _ ih =>
    generalize hwords : t :: ts ++ after = words at h'
    cases h' with
    | nil => cases hwords
    | word ht' _ =>
      obtain ⟨rfl, -⟩ := List.cons.inj hwords
      exact absurd ht ht'
    | group _ hts' h' =>
      have hsplit : splitGroup? (t :: ts ++ after) = some (t :: ts, after) :=
        splitGroup?_eq_some_iff.mpr ⟨rfl, hts⟩
      rw [hwords, splitGroup?_eq_some_iff.mpr ⟨rfl, hts'⟩] at hsplit
      cases hsplit
      rw [ih h']

theorem readPlace?_eq_none_iff {group : List Char} :
    readPlace? group = none ↔ ∀ place, ¬ IsPlace group place := by
  rw [Option.eq_none_iff_forall_ne_some]
  simp only [ne_eq, readPlace?_eq_some_iff]

theorem lastOf_readPlace?_eq_iff {groups : List (List Char)} {place : Option (Float × Float)} :
    lastOf readPlace? groups = place ↔ IsLastPlace groups place := by
  cases place with
  | none => simp only [lastOf_eq_none_iff, readPlace?_eq_none_iff, IsLastPlace]
  | some place =>
    simp only [lastOf_eq_some_iff, readPlace?_eq_some_iff, readPlace?_eq_none_iff, IsLastPlace]

/-- A row names one place at most. -/
theorem NamesPlace.unique {text : List Char} {place place' : Option (Float × Float)}
    (h : NamesPlace text place) (h' : NamesPlace text place') : place = place' := by
  obtain ⟨name, words, cell, groups, htokens, hgroups, hplace⟩ := h
  obtain ⟨name', words', cell', groups', htokens', hgroups', hplace'⟩ := h'
  rw [htokens] at htokens'
  cases htokens'
  cases hgroups.unique hgroups'
  rw [← lastOf_readPlace?_eq_iff.mpr hplace, ← lastOf_readPlace?_eq_iff.mpr hplace']

namespace PinRow

theorem location_addGroup (r : PinRow) (group : List Char) :
    (r.addGroup false group).location = (readPlace? group).or r.location := by
  have hsource : readPlace? "(gclock source)".toList = none := rfl
  unfold addGroup
  rw [if_neg Bool.false_ne_true]
  split_ifs with heq
  · rw [heq, hsource]
    rfl
  · cases readPlace? group <;> rfl

/-- The groups of a row are read from left to right, and a later place replaces an earlier one. -/
theorem location_of_readTokens {line fuel : Nat} {isFirst : Bool} {r row : PinRow}
    {ts : List Token} (h : readTokens line fuel isFirst r ts = .ok (some row)) :
    ∃ groups, RowGroups ts groups ∧
      row.location = (lastOf readPlace? (groups.drop isFirst.toNat)).or r.location := by
  induction fuel generalizing isFirst r ts with
  | zero =>
    unfold readTokens at h
    cases h
  | succ fuel ih =>
    cases ts with
    | nil =>
      cases h
      exact ⟨[], .nil, by rw [List.drop_nil]; rfl⟩
    | cons t rest =>
      unfold readTokens at h
      split_ifs at h with hopen hnumber
      · split at h
        · cases h
        · rename_i group after hsplit
          obtain ⟨hts, hgroup⟩ := splitGroup?_eq_some_iff.mp hsplit
          obtain ⟨groups, hgroups, hlocation⟩ := ih h
          cases group with
          | nil =>
            obtain ⟨before, last, hempty, -⟩ := hgroup
            simp at hempty
          | cons t' group =>
            obtain ⟨rfl, rfl⟩ := List.cons.inj hts
            refine ⟨joinTokens (t :: group) :: groups, .group hopen hgroup hgroups, ?_⟩
            rw [hlocation]
            cases isFirst with
            | true => rfl
            | false =>
              -- the place of this group counts only if no group behind it has one
              rw [location_addGroup, ← Option.or_assoc]
              exact congrArg (Option.or · r.location) (lastOf_cons readPlace? _ groups).symm
      · obtain ⟨value, -, h⟩ := ok_of_bind h
        obtain ⟨groups, hgroups, hlocation⟩ := ih h
        exact ⟨groups, .word hopen hgroups, hlocation⟩
      · obtain ⟨groups, hgroups, hlocation⟩ := ih h
        exact ⟨groups, .word hopen hgroups, hlocation⟩

theorem namesPlace_of_ofLine? {line : Nat} {text : List Char} {row : PinRow}
    (h : ofLine? line text = .ok (some row)) : NamesPlace text row.location := by
  unfold ofLine? at h
  split at h
  · rename_i name cell rest htokens
    split_ifs at h with hopen
    · obtain ⟨groups, hgroups, hlocation⟩ := location_of_readTokens h
      rw [Option.or_none] at hlocation
      cases hgroups with
      | word ht _ => exact absurd hopen ht
      | @group _ _ _ groups ht hts hafter =>
        exact ⟨name, _, _, groups, htokens, .group ht hts hafter,
          lastOf_readPlace?_eq_iff.mp hlocation.symm⟩
    · cases h
  · cases h

end PinRow

/-! ### Distances along one side -/

def SourceFile.placeAt (file : SourceFile) (line : Nat) : Option (Float × Float) :=
  (file.line? line).bind fun text =>
    match PinRow.ofLine? line text.toList with
    | .ok (some row) => row.location
    | .ok none | .error _ => none

/-- The pins of one side are measured from one to the next among those with a place. -/
structure Measured (file : SourceFile) (pins : List Pin) : Prop where
  named : ∀ pin ∈ pins, ∃ text, file.line? pin.line = some text ∧
    ∀ place, NamesPlace text.toList place ↔ place = file.placeAt pin.line
  unplaced : ∀ pin ∈ pins, file.placeAt pin.line = none → pin.distance = 0
  first : ∀ before pin after, pins = before ++ pin :: after →
    (∀ q ∈ before, file.placeAt q.line = none) → pin.distance = 0
  next : ∀ before q between pin after x y x' y',
    pins = before ++ q :: between ++ pin :: after → file.placeAt q.line = some (x', y') →
    (∀ r ∈ between, file.placeAt r.line = none) → file.placeAt pin.line = some (x, y) →
    pin.distance = (x - x').abs + (y - y').abs

def Pin.reach (p : Pin) : Nat × Float := (p.line, p.distance)

/-- The way from the last place to the next one. -/
def wayFrom (last place : Option (Float × Float)) : Float :=
  match place with
  | none => 0
  | some place => (last.map fun last => Block.distance last place).getD 0

/-- The distances on some lines are the ways from the last place before. -/
structure Paced (file : SourceFile) (reaches : List (Nat × Float)) : Prop where
  named : ∀ r ∈ reaches, ∃ text, file.line? r.1 = some text ∧
    NamesPlace text.toList (file.placeAt r.1)
  ways : ∀ before r after, reaches = before ++ r :: after →
    r.2 = wayFrom (lastOf (file.placeAt ·.1) before) (file.placeAt r.1)

section
variable {file : SourceFile}

theorem paced_nil : Paced file [] := by
  constructor
  · exact fun r hr => absurd hr List.not_mem_nil
  · intro before r after h
    simp at h

theorem Paced.concat {reaches : List (Nat × Float)} (h : Paced file reaches) {line : Nat}
    {text : String} (htext : file.line? line = some text)
    (hplace : NamesPlace text.toList (file.placeAt line)) :
    Paced file (reaches ++
      [(line, wayFrom (lastOf (file.placeAt ·.1) reaches) (file.placeAt line))]) := by
  constructor
  · intro r hr
    rcases List.mem_append.mp hr with hr | hr
    · exact h.named r hr
    · obtain rfl := List.mem_singleton.mp hr
      exact ⟨text, htext, hplace⟩
  · intro before r after hsplit
    -- the new member comes last, so it is the one asked for or stands behind it
    rcases List.eq_nil_or_concat after with rfl | ⟨after, last, rfl⟩
    · obtain ⟨rfl, heq⟩ := List.append_inj' hsplit rfl
      cases heq
      rfl
    · rw [List.concat_eq_append, ← List.cons_append, ← List.append_assoc] at hsplit
      exact h.ways before r after (List.append_inj' hsplit rfl).1

theorem Paced.concat_pin {pins : List Pin} (h : Paced file (pins.map Pin.reach)) {line : Nat}
    {text : String} (htext : file.line? line = some text)
    (hplace : NamesPlace text.toList (file.placeAt line)) {p : Pin} (hp : p.reach =
      (line, wayFrom (lastOf (file.placeAt ·.1) (pins.map Pin.reach)) (file.placeAt line))) :
    Paced file ((pins ++ [p]).map Pin.reach) ∧
      lastOf (file.placeAt ·.1) ((pins ++ [p]).map Pin.reach) =
        (file.placeAt line).or (lastOf (file.placeAt ·.1) (pins.map Pin.reach)) := by
  rw [List.map_append, List.map_singleton, hp, lastOf_concat]
  exact ⟨h.concat htext hplace, rfl⟩

theorem Paced.measured {pins : List Pin} (h : Paced file (pins.map Pin.reach)) :
    Measured file pins := by
  have hway : ∀ before pin after, pins = before ++ pin :: after → pin.distance =
      wayFrom (lastOf (file.placeAt ·.line) before) (file.placeAt pin.line) := by
    rintro before pin after rfl
    have hway := h.ways (before.map Pin.reach) pin.reach (after.map Pin.reach) (by simp)
    unfold lastOf at hway
    rwa [List.filterMap_map] at hway
  constructor
  · intro pin hpin
    obtain ⟨text, htext, hnamed⟩ := h.named pin.reach (List.mem_map_of_mem hpin)
    refine ⟨text, htext, fun place => ⟨fun hplace => hplace.unique hnamed, ?_⟩⟩
    rintro rfl
    exact hnamed
  · intro pin hpin hplace
    obtain ⟨before, after, rfl⟩ := List.append_of_mem hpin
    rw [hway before pin after rfl, hplace]
    rfl
  · intro before pin after hpins hbefore
    rw [hway before pin after hpins, lastOf_eq_none_iff.mpr hbefore]
    cases file.placeAt pin.line <;> rfl
  · intro before q between pin after x y x' y' hpins hq hbetween hpin
    rw [hway _ pin after hpins, hpin, lastOf_eq_some_iff.mpr ⟨before, q, between, rfl, hq, hbetween⟩]
    rfl

end

namespace Block

/-- The pins of both sides are measured, each side for itself. -/
structure Spaced (file : SourceFile) (b : Block) : Prop where
  launch : Paced file (b.path.launchPins.map Pin.reach)
  capture : Paced file (b.path.capturePins.map Pin.reach)
  launchPlace : b.stage.inTable = .launch → b.path.capturePins = [] ∧
    b.lastPlace = lastOf (file.placeAt ·.1) (b.path.launchPins.map Pin.reach)
  capturePlace : b.stage = .capture →
    b.lastPlace = lastOf (file.placeAt ·.1) (b.path.capturePins.map Pin.reach)

section
variable {file : SourceFile} {rules : RuleSet} {line : Nat} {b b' : Block}

theorem reach_atPlace {row : PinRow} {p : Pin} (hp : b.pinOf line row = .ok p)
    (rules : RuleSet) :
    (b.atPlace row (classify rules p)).reach = (line, wayFrom b.lastPlace row.location) := by
  have hline : p.line = line := (name_and_line_of_pinOf hp).2
  have hdistance : p.distance = 0 := by
    unfold pinOf at hp
    dsimp only at hp
    split at hp
    · cases hp
    · cases hp
      have hset : ∀ p v, (setValue p v).distance = p.distance := by
        intro p v
        unfold setValue
        split <;> rfl
      rw [foldl_setValue_frame hset]
  unfold Block.atPlace classify Pin.reach
  cases row.location with
  | none => simp [hline, hdistance, wayFrom]
  | some place => simp [hline, wayFrom]

theorem Spaced.enterTable (h : b.Spaced file) : b.enterTable.Spaced file := by
  refine ⟨h.launch, h.capture, fun hs => h.launchPlace ?_, fun hs => h.capturePlace ?_⟩
  · change b.stage.inTable.inTable = .launch at hs
    revert hs
    cases b.stage <;> decide
  · change b.stage.inTable = .capture at hs
    revert hs
    cases b.stage <;> decide

theorem Spaced.readNet (h : b.Spaced file) (row : PinRow) : (b.readNet row).Spaced file := by
  obtain ⟨hlaunch, hcapture⟩ := readNet_map (g := Pin.reach) (fun _ _ => rfl) b row
  obtain ⟨launchPins, capturePins, he⟩ := b.readNet_eq row
  rw [he] at hlaunch hcapture ⊢
  dsimp only at hlaunch hcapture
  constructor
  · exact hlaunch ▸ h.launch
  · exact hcapture ▸ h.capture
  · intro hs
    obtain ⟨hempty, hlast⟩ := h.launchPlace hs
    rw [hempty] at hcapture
    exact ⟨List.map_eq_nil_iff.mp hcapture, hlast.trans (by rw [← hlaunch])⟩
  · intro hs
    exact (h.capturePlace hs).trans (by rw [← hcapture])

theorem PinStep.spaced {row : PinRow} (hstep : PinStep rules b line row b') (h : b.Spaced file)
    (hs : b.stage = .launch ∨ b.stage = .capture) {text : String}
    (htext : file.line? line = some text) (hrow : file.placeAt line = row.location)
    (hplace : NamesPlace text.toList row.location) : b'.Spaced file := by
  rw [← hrow] at hplace
  cases hstep with
  | net hc => exact h.readNet row
  | @launch p hc hp hlaunch =>
    obtain ⟨hempty, hlast⟩ := h.launchPlace (by rw [hlaunch]; rfl)
    have hreach := reach_atPlace hp rules
    rw [hlast, ← hrow] at hreach
    obtain ⟨hpaced, hmoved⟩ := h.launch.concat_pin htext hplace hreach
    rw [← hlast, hrow] at hmoved
    obtain ⟨_, _, _, _, _, _, he, -⟩ := addLaunchPin_eq rules (b.moveTo row) row
      (b.atPlace row (classify rules p))
    rw [he]
    exact ⟨hpaced, h.capture, fun _ => ⟨hempty, hmoved.symm⟩,
      fun hcapture => absurd (hlaunch.symm.trans hcapture) (by decide)⟩
  | @capture p hc hp hlaunch =>
    have hcapture := hs.resolve_left hlaunch
    have hlast := h.capturePlace hcapture
    have hreach := reach_atPlace hp rules
    rw [hlast, ← hrow] at hreach
    obtain ⟨hpaced, hmoved⟩ := h.capture.concat_pin htext hplace hreach
    rw [← hlast, hrow] at hmoved
    obtain ⟨_, _, _, he, -⟩ := addCapturePin_eq rules (b.moveTo row) row
      (b.atPlace row (classify rules p))
    rw [he]
    refine ⟨h.launch, hpaced, fun hlaunch => ?_, fun _ => hmoved.symm⟩
    change b.stage.inTable = .launch at hlaunch
    rw [hcapture] at hlaunch
    exact absurd hlaunch (by decide)

theorem Step.spaced {text : String} {atEnd : Bool}
    (hstep : Step rules line text.toList b b' atEnd) (h : b.Spaced file)
    (htext : file.line? line = some text) : b'.Spaced file := by
  cases hstep with
  | skip => exact h
  | heading hs hb =>
    obtain ⟨_, _, _, _, _, _, rfl⟩ := readHeading?_eq hb
    exact ⟨h.launch, h.capture, h.launchPlace, h.capturePlace⟩
  | tableHeader ht =>
    have h := h.enterTable
    exact ⟨h.launch, h.capture, h.launchPlace, h.capturePlace⟩
  | clockEdge hs hr ht =>
    have h := h.enterTable
    unfold readClockEdge
    split_ifs <;> exact ⟨h.launch, h.capture, h.launchPlace, h.capturePlace⟩
  | labelled hs hr hb =>
    have h := h.enterTable
    cases hb with
    | arrival hs' hv =>
      -- the capture side begins here, with no pin and no place to measure from
      obtain ⟨hempty, -⟩ := h.launchPlace (by rw [hs']; rfl)
      refine ⟨h.launch, h.capture, fun hlaunch => ?_, fun _ => ?_⟩
      · cases hlaunch
      · dsimp only
        rw [hempty]
        rfl
    | required hs' hv =>
      refine ⟨h.launch, h.capture, fun hlaunch => ?_, fun hcapture => ?_⟩
      · cases hlaunch
      · cases hcapture
    | _ => exact ⟨h.launch, h.capture, h.launchPlace, h.capturePlace⟩
  | @pinRow row _ hs hr hrow hb =>
    have hplace : file.placeAt line = row.location := by
      simp [SourceFile.placeAt, htext, hrow]
    refine hb.spaced h.enterTable ?_ htext hplace (PinRow.namesPlace_of_ofLine? hrow)
    change b.stage.inTable = .launch ∨ b.stage.inTable = .capture
    revert hs
    cases b.stage <;> decide
  | slack hs hr ht => exact ⟨h.launch, h.capture, h.launchPlace, h.capturePlace⟩

end

theorem start_spaced (file : SourceFile) (line : Nat) (startpoint : List Char) :
    (start line startpoint).Spaced file := by
  refine ⟨paced_nil, paced_nil, fun _ => ⟨rfl, rfl⟩, fun hcapture => ?_⟩
  cases hcapture

end Block

theorem ScanRange.spaced_of_read {range : ScanRange} {file : SourceFile} {rules : RuleSet}
    {t : BlockText} {r : BlockReading} (ht : t ∈ range.blocks file) (h : t.read rules = .ok r) :
    r.block.Spaced file := by
  refine Block.feedLines_induction h (Block.start_spaced file t.line t.startpoint) ?_
  intro b b' l atEnd hl hb hf
  exact (Block.feed_step hf).spaced hb ((body_of_mem_blocks ht).2 l hl).2

namespace Report

/-- Each pin of a path with a place is measured from the last one before it on its own side. -/
theorem measured_of_read {r : Report} {file : SourceFile} {ranges : List ScanRange}
    {p : TimingPath} (hp : p ∈ (r.read file ranges).report.paths.drop r.paths.length) :
    Measured file p.launchPins ∧ Measured file p.capturePins := by
  obtain ⟨range, -, t, ht, reading, hread, rfl⟩ := exists_block_of_mem_read hp
  have hspaced := ScanRange.spaced_of_read ht hread
  rw [Block.finish_eq]
  exact ⟨hspaced.launch.measured, hspaced.capture.measured⟩

/-- A report with a net and a pin without a place between two pins with places. -/
def spacedPins : SourceFile :=
  .ofText ⟨0⟩ "spaced_pins" ("Startpoint: a\nu (B) 0 (1,2)\nn (net) 1\nv (B) 1 (1,z)\n" ++
    "w (B) 2 (4, 6)\ndata arrival time 2\nw (B) 1 (9,9)\n")

theorem measured_of_read_spacedPins :
    ∃ p ∈ (({ rules := {} } : Report).read spacedPins [.whole]).report.paths.drop
        ({ rules := {} } : Report).paths.length,
      ∃ u v w c x y x' y', p.launchPins = [u, v, w] ∧ p.capturePins = [c] ∧
        spacedPins.placeAt u.line = some (x', y') ∧ spacedPins.placeAt w.line = some (x, y) ∧
        u.distance = 0 ∧ v.distance = 0 ∧ w.distance = (x - x').abs + (y - y').abs ∧
        c.distance = 0 := by
  obtain ⟨hfirst, hplaces⟩ :
      (({ rules := {} } : Report).read spacedPins [.whole]).report.paths[0]?.map
        (fun p => (p.launchPins.map (·.line), p.capturePins.map (·.line))) =
          some ([2, 4, 5], [7]) ∧
      (spacedPins.placeAt 2).isSome = true ∧ spacedPins.placeAt 4 = none ∧
        (spacedPins.placeAt 5).isSome = true := by
    rw [← Option.isNone_iff_eq_none, spacedPins, SourceFile.ofText_append rfl rfl]
    decide +kernel
  obtain ⟨p, hp, hlines⟩ := exists_added_of_first rfl hfirst
  obtain ⟨hlaunch, hcapture⟩ := Prod.mk.inj hlines
  simp only [List.map_eq_cons_iff, List.map_eq_nil_iff] at hlaunch hcapture
  obtain ⟨u, _, hlaunch, hu, v, _, rfl, hv, w, _, rfl, hw, rfl⟩ := hlaunch
  obtain ⟨c, _, hcapture, -, rfl⟩ := hcapture
  rw [← hu, ← hv, ← hw] at hplaces
  obtain ⟨hu, hv, hw⟩ := hplaces
  obtain ⟨⟨x', y'⟩, hu⟩ := Option.isSome_iff_exists.mp hu
  obtain ⟨⟨x, y⟩, hw⟩ := Option.isSome_iff_exists.mp hw
  obtain ⟨launch, capture⟩ := measured_of_read hp
  rw [hlaunch] at launch
  rw [hcapture] at capture
  refine ⟨p, hp, u, v, w, c, x, y, x', y', hlaunch, hcapture, hu, hw, ?_, ?_, ?_, ?_⟩
  · exact launch.first [] u [v, w] rfl (by simp)
  · exact launch.unplaced v (by simp) hv
  · exact launch.next [] u [v] w [] x y x' y' rfl hu (by simpa using hv) hw
  · exact capture.first [] c [] rfl (by simp)

end Report

end PathTiming
