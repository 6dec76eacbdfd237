import PathTiming.Source.Disk
import Mathlib.Data.List.Basic
import Mathlib.Tactic.Common

/-! Writing files: a written file holds its text until it is written again, and where a path leads
for writing does not depend on what was written before. -/
namespace PathTiming.Disk

/-! ### What a disk holds -/

section
variable {d : Disk} {name other : List String}

theorem holds_iff : d.holds name = true ↔
    ∃ known ∈ d.home :: d.directories ++ d.files.keys, name <+: known := by
  unfold holds
  rw [List.any_eq_true]
  simp only [List.isPrefixOf_iff_prefix]

theorem holds_of_le (h : d.holds other = true) (hle : name <+: other) : d.holds name = true := by
  obtain ⟨known, hknown, hother⟩ := holds_iff.mp h
  exact holds_iff.mpr ⟨known, hknown, hle.trans hother⟩

theorem holds_start (d : Disk) (path : String) : d.holds (d.start path) = true := by
  unfold start
  split_ifs
  · exact holds_iff.mpr ⟨d.home, List.mem_cons_self, List.nil_prefix⟩
  · exact holds_iff.mpr ⟨d.home, List.mem_cons_self, List.prefix_refl _⟩

theorem holds_of_walk {here there parts : List String} (hhere : d.holds here = true)
    (h : d.walk here parts = .ok there) : d.holds there = true := by
  induction parts generalizing here with
  | nil =>
    cases h
    exact hhere
  | cons part rest ih =>
    unfold walk at h
    split_ifs at h with hfile hsame hup hlong hheld
    · exact ih hhere h
    · exact ih (holds_of_le hhere here.dropLast_prefix) h
    · exact ih hheld h

theorem walk_append (d : Disk) (here parts rest : List String) :
    d.walk here (parts ++ rest) = d.walk here parts >>= fun there => d.walk there rest := by
  induction parts generalizing here with
  | nil => rfl
  | cons part parts ih =>
    rw [List.cons_append, walk, walk]
    split_ifs
    · rfl
    · exact ih here
    · exact ih here.dropLast
    · rfl
    · exact ih (here ++ [part])
    · rfl

theorem walk_isFileName {there parts : List String} (hfile : d.isFileName name = true)
    (h : d.walk name parts = .ok there) : there = name := by
  cases parts with
  | nil =>
    cases h
    rfl
  | cons part rest =>
    unfold walk at h
    rw [if_pos hfile] at h
    cases h

end

/-! ### One more file -/

def put (d : Disk) (name : List String) (content : ByteArray) : Disk :=
  { d with files := d.files.insert name (.ok content) }

@[simp] theorem start_put (d : Disk) (name : List String) (content : ByteArray) (path : String) :
    (d.put name content).start path = d.start path := rfl

/-- A file can stand under a name: the directory is there, and the name is not one of a directory. -/
structure Fits (d : Disk) (name : List String) : Prop where
  parent : ∃ directory last, name = directory ++ [last] ∧ d.holds directory = true
  file : d.holds name = true → d.isFileName name = true

section
variable {d : Disk} {name other : List String} {content : ByteArray}

theorem isFileName_put :
    (d.put name content).isFileName other = true ↔ name = other ∨ d.isFileName other = true :=
  Keyed.contains_insert _ _ _ _

theorem holds_put :
    (d.put name content).holds other = true ↔ other <+: name ∨ d.holds other = true := by
  have hkeys : ∀ known, known ∈ (d.put name content).files.keys ↔
      name = known ∨ known ∈ d.files.keys := by
    intro known
    rw [← Keyed.contains_iff_mem_keys, ← Keyed.contains_iff_mem_keys]
    exact Keyed.contains_insert _ _ _ _
  rw [holds_iff, holds_iff]
  constructor
  · rintro ⟨known, hknown, hle⟩
    rcases List.mem_append.mp hknown with hdirectory | hfile
    · exact .inr ⟨known, List.mem_append_left _ hdirectory, hle⟩
    · rcases (hkeys known).mp hfile with rfl | hfile
      · exact .inl hle
      · exact .inr ⟨known, List.mem_append_right _ hfile, hle⟩
  · rintro (hle | ⟨known, hknown, hle⟩)
    · exact ⟨name, List.mem_append_right _ ((hkeys name).mpr (.inl rfl)), hle⟩
    · rcases List.mem_append.mp hknown with hdirectory | hfile
      · exact ⟨known, List.mem_append_left _ hdirectory, hle⟩
      · exact ⟨known, List.mem_append_right _ ((hkeys known).mpr (.inr hfile)), hle⟩

theorem isFileName_put_of_ne (hne : other ≠ name) :
    (d.put name content).isFileName other = d.isFileName other := by
  rw [Bool.eq_iff_iff, isFileName_put, or_iff_right hne.symm]

theorem Fits.holds_put_of_ne (h : d.Fits name) (hne : other ≠ name) :
    (d.put name content).holds other = d.holds other := by
  rw [Bool.eq_iff_iff, holds_put]
  refine ⟨fun hor => hor.elim (fun hle => ?_) id, .inr⟩
  obtain ⟨directory, last, rfl, hdirectory⟩ := h.parent
  -- Every other name on the way to the file is one on the way to its directory.
  rcases List.prefix_concat_iff.mp hle with heq | hle
  · exact absurd heq hne
  · exact holds_of_le hdirectory hle

/-- Ways through the disk that do not end at the new file are the same as before. -/
theorem Fits.walk_put_iff (h : d.Fits name) (content : ByteArray) {here there parts : List String}
    (hhere : d.holds here = true) (hne : there ≠ name) :
    (d.put name content).walk here parts = .ok there ↔ d.walk here parts = .ok there := by
  induction parts generalizing here with
  | nil => exact Iff.rfl
  | cons part rest ih =>
    unfold walk
    by_cases hfile : d.isFileName here = true
    · rw [if_pos hfile, if_pos (isFileName_put.mpr (.inr hfile))]
    have hhereNe : here ≠ name := by
      rintro rfl
      exact hfile (h.file hhere)
    rw [isFileName_put_of_ne hhereNe, if_neg hfile, if_neg hfile]
    by_cases hsame : part = "" ∨ part = "."
    · rw [if_pos hsame, if_pos hsame]
      exact ih hhere
    rw [if_neg hsame, if_neg hsame]
    by_cases hup : part = ".."
    · rw [if_pos hup, if_pos hup]
      exact ih (holds_of_le hhere here.dropLast_prefix)
    rw [if_neg hup, if_neg hup]
    by_cases hlong : maxName < part.utf8ByteSize
    · rw [if_pos hlong, if_pos hlong]
    rw [if_neg hlong, if_neg hlong]
    by_cases hname : here ++ [part] = name
    · -- Neither disk lets a way lead through the new file.
      rw [hname]
      refine iff_of_false ?_ ?_
      · split_ifs
        · exact fun hwalk => hne (walk_isFileName (isFileName_put.mpr (.inl rfl)) hwalk)
        · simp
      · split_ifs with hheld
        · exact fun hwalk => hne (walk_isFileName (h.file hheld) hwalk)
        · simp
    · rw [h.holds_put_of_ne hname]
      split_ifs with hheld
      · exact ih hheld
      · exact Iff.rfl

end

/-! ### Targets of writing -/

/-- What it takes for a path to lead to a file that can be written. -/
inductive LeadsTo (d : Disk) (path : String) : List String → Prop
  | intro {front directory : List String} {last : String} (hjudge : judge path = .ok ())
      (hparts : parts path = front ++ [last]) (hlast : last ≠ "" ∧ last ≠ "." ∧ last ≠ "..")
      (hlong : last.utf8ByteSize ≤ maxName) (hwalk : d.walk (d.start path) front = .ok directory)
      (hdirectory : d.isFileName directory = false)
      (hfile : d.holds (directory ++ [last]) = true → d.isFileName (directory ++ [last]) = true) :
      LeadsTo d path (directory ++ [last])

section
variable {d d' : Disk} {path other text : String} {name : List String}

theorem target_eq_ok_iff : d.target path = .ok name ↔ d.LeadsTo path name := by
  have hdrop : ∀ reversed : List String, reversed.head? ≠ some "" →
      reversed.dropWhile (fun part => decide (part = "")) = reversed := by
    intro reversed hhead
    cases reversed with
    | nil => rfl
    | cons last before => exact List.dropWhile_cons_of_neg (by simpa using hhead)
  unfold target
  constructor
  · intro h
    cases hjudge : judge path with
    | error e =>
      rw [hjudge] at h
      cases h
    | ok u =>
      rw [hjudge] at h
      dsimp only [bind, Except.bind] at h
      split at h
      · cases h
      rename_i last before hlast
      split at h
      · cases h
      rename_i directory hwalk
      split_ifs at h with hdirectory hends hlong hfile
      cases h
      simp only [not_or] at hends
      rw [hdrop _ hends.1] at hlast
      have hempty : last ≠ "" := by
        rintro rfl
        rw [hlast] at hends
        exact hends.1 rfl
      refine .intro hjudge (List.reverse_eq_cons_iff.mp hlast) ⟨hempty, hends.2⟩ (by omega) hwalk
        (by simpa using hdirectory) fun hheld => ?_
      by_contra hnot
      exact hfile ⟨hheld, by simpa using hnot⟩
  · rintro ⟨hjudge, hparts, ⟨hempty, hdot, hup⟩, hlong, hwalk, hdirectory, hfile⟩
    rename_i front directory last
    have hhead : (parts path).reverse.head? ≠ some "" := by
      rw [hparts]
      simpa using hempty
    rw [hjudge]
    dsimp only [bind, Except.bind]
    rw [hdrop _ hhead, hparts, List.reverse_concat]
    dsimp only
    rw [List.reverse_reverse, hwalk]
    dsimp only
    rw [if_neg (by simp [hdirectory]), if_neg (by simp [hempty, hdot, hup]), if_neg (by omega),
      if_neg fun hboth => ?_]
    have hfree := hfile hboth.1
    simp [hfree] at hboth

theorem LeadsTo.fits (h : d.LeadsTo path name) : d.Fits name := by
  cases h with
  | intro hjudge hparts hlast hlong hwalk hdirectory hfile =>
    exact ⟨⟨_, _, rfl, holds_of_walk (d.holds_start path) hwalk⟩, hfile⟩

theorem Fits.ne_of_walk (h : d.Fits name) {directory front : List String}
    (hwalk : d.walk (d.start path) front = .ok directory)
    (hdirectory : d.isFileName directory = false) : directory ≠ name := by
  rintro rfl
  rw [h.file (holds_of_walk (d.holds_start path) hwalk)] at hdirectory
  cases hdirectory

/-- A path leads to the same file for writing when some other file was written before. -/
theorem Fits.leadsTo_put_iff (h : d.Fits name) {content : ByteArray} {there : List String} :
    (d.put name content).LeadsTo path there ↔ d.LeadsTo path there := by
  have hstart := d.holds_start path
  have hfiles : ∀ n, ((d.put name content).holds n = true →
      (d.put name content).isFileName n = true) ↔ (d.holds n = true → d.isFileName n = true) := by
    intro n
    by_cases hn : n = name
    · subst hn
      exact iff_of_true (fun _ => isFileName_put.mpr (.inl rfl)) h.file
    · rw [h.holds_put_of_ne hn, isFileName_put_of_ne hn]
  constructor
  · rintro ⟨hjudge, hparts, hlast, hlong, hwalk, hdirectory, hfile⟩
    rename_i front directory last
    have hne : directory ≠ name := by
      rintro rfl
      rw [isFileName_put.mpr (.inl rfl)] at hdirectory
      cases hdirectory
    rw [isFileName_put_of_ne hne] at hdirectory
    exact .intro hjudge hparts hlast hlong ((h.walk_put_iff content hstart hne).mp hwalk) hdirectory
      ((hfiles _).mp hfile)
  · rintro ⟨hjudge, hparts, hlast, hlong, hwalk, hdirectory, hfile⟩
    rename_i front directory last
    have hne := h.ne_of_walk hwalk hdirectory
    refine .intro hjudge hparts hlast hlong ((h.walk_put_iff content hstart hne).mpr hwalk) ?_
      ((hfiles _).mpr hfile)
    rw [isFileName_put_of_ne hne]
    exact hdirectory

theorem write_eq_ok_iff :
    d.write path text = .ok d' ↔ ∃ name, d.LeadsTo path name ∧ d' = d.put name text.toUTF8 := by
  simp only [← target_eq_ok_iff]
  unfold write
  cases d.target path with
  | error e => simp [bind, Except.bind]
  | ok name => simp [bind, Except.bind, pure, Except.pure, put, eq_comm]

/-! ### What is read afterwards -/

theorem locate_eq_ok_iff : d.locate path = .ok name ↔
    judge path = .ok () ∧ path.isEmpty = false ∧ d.walk (d.start path) (parts path) = .ok name := by
  unfold locate
  cases judge path with
  | error e => simp [bind, Except.bind]
  | ok u =>
    dsimp only [bind, Except.bind]
    cases path.isEmpty <;> simp

theorem LeadsTo.locate_put (h : d.LeadsTo path name) {content : ByteArray} :
    (d.put name content).locate path = .ok name := by
  have hfits := h.fits
  cases h with
  | @intro front directory last hjudge hparts hlast hlong hwalk hdirectory hfile =>
    have hne := hfits.ne_of_walk hwalk hdirectory
    refine locate_eq_ok_iff.mpr ⟨hjudge, ?_, ?_⟩
    · by_contra hempty
      have hpath : path = "" := by simpa using hempty
      have hlone : front ++ [last] = [] ++ [""] := by
        rw [← hparts, hpath]
        decide
      exact hlast.1 (List.singleton_inj.mp (List.append_inj_right' hlone rfl))
    · have hfront := (hfits.walk_put_iff content (d.holds_start path) hne).mpr hwalk
      have hheld : (d.put (directory ++ [last]) content).holds (directory ++ [last]) = true :=
        holds_put.mpr (.inl (List.prefix_refl _))
      rw [hparts, walk_append, start_put, hfront]
      change (d.put (directory ++ [last]) content).walk directory [last] = _
      rw [walk, isFileName_put_of_ne hne, if_neg (by simp [hdirectory]), if_neg (by simp [hlast]),
        if_neg hlast.2.2, if_neg (by omega), if_pos hheld]
      rfl

theorem read_of_locate {content : Except FileError ByteArray} (h : d.locate path = .ok name)
    (hfile : d.files.get? name = some content) : d.read path = content := by
  unfold read
  rw [h]
  dsimp only [bind, Except.bind]
  rw [hfile]

theorem LeadsTo.read_put (h : d.LeadsTo path name) (content : ByteArray) :
    (d.put name content).read path = .ok content := by
  refine read_of_locate h.locate_put ?_
  exact (Keyed.get?_insert d.files name name _).trans (if_pos rfl)

/-- Writing one file changes nothing about the others. -/
theorem Fits.read_put_of_ne (h : d.Fits name) (content : ByteArray) {there : List String}
    (hlocate : d.locate path = .ok there) (hne : there ≠ name) :
    (d.put name content).locate path = .ok there ∧ (d.put name content).read path = d.read path := by
  obtain ⟨hjudge, hempty, hwalk⟩ := locate_eq_ok_iff.mp hlocate
  have hlocate' : (d.put name content).locate path = .ok there :=
    locate_eq_ok_iff.mpr ⟨hjudge, hempty, (h.walk_put_iff content (d.holds_start path) hne).mpr hwalk⟩
  have hget : (d.put name content).files.get? there = d.files.get? there :=
    (Keyed.get?_insert d.files name there _).trans (if_neg hne.symm)
  refine ⟨hlocate', ?_⟩
  unfold read
  rw [hlocate, hlocate']
  dsimp only [bind, Except.bind]
  rw [hget]

end

/-! ### Several files -/

/-- Writes one file after another until one cannot be written. -/
def writeAll (d : Disk) : List (String × String) → Disk × Option FileError
  | [] => (d, none)
  | (path, text) :: rest =>
    match d.write path text with
    | .ok d => d.writeAll rest
    | .error cause => (d, some cause)

/-- Two paths never lead to one file for writing. -/
def Apart (d : Disk) (path other : String) : Prop :=
  ∀ name, d.target path = .ok name → d.target other ≠ .ok name

section
variable {d d' : Disk} {writes more : List (String × String)} {path : String} {name : List String}

theorem writeAll_append (d : Disk) (writes more : List (String × String)) :
    d.writeAll (writes ++ more) =
      match d.writeAll writes with
      | (d', none) => d'.writeAll more
      | (d', some cause) => (d', some cause) := by
  induction writes generalizing d with
  | nil => rfl
  | cons w writes ih =>
    rw [List.cons_append, writeAll, writeAll]
    cases d.write w.1 w.2 with
    | error cause => rfl
    | ok d' => exact ih d'

/-- What each write preserves is preserved by all of them. Where their paths lead is known from the
beginning. -/
theorem writeAll_induction {P : Disk → Prop} (h : P d)
    (hstep : ∀ e, P e → ∀ w ∈ writes, ∀ n, d.LeadsTo w.1 n → e.Fits n → P (e.put n w.2.toUTF8)) :
    P (d.writeAll writes).1 := by
  induction writes generalizing d with
  | nil => exact h
  | cons w writes ih =>
    rw [writeAll]
    cases hw : d.write w.1 w.2 with
    | error cause => exact h
    | ok d' =>
      obtain ⟨n, hn, rfl⟩ := write_eq_ok_iff.mp hw
      refine ih (hstep d h w List.mem_cons_self n hn hn.fits) fun e he v hv m hm hfits => ?_
      exact hstep e he v (List.mem_cons_of_mem w hv) m (hn.fits.leadsTo_put_iff.mp hm) hfits

/-- Files that are no targets keep their content, also when a write fails. -/
theorem get?_writeAll (hother : ∀ w ∈ writes, d.target w.1 ≠ .ok name) :
    (d.writeAll writes).1.files.get? name = d.files.get? name := by
  refine writeAll_induction (P := fun e => e.files.get? name = d.files.get? name) rfl ?_
  intro e he w hw n hn _
  have hne : n ≠ name := by
    rintro rfl
    exact hother w hw (target_eq_ok_iff.mpr hn)
  exact ((Keyed.get?_insert e.files n name _).trans (if_neg hne)).trans he

theorem read_writeAll_of_ne (hlocate : d.locate path = .ok name)
    (hother : ∀ w ∈ writes, ¬ d.LeadsTo w.1 name) :
    (d.writeAll writes).1.read path = d.read path := by
  have hboth : (d.writeAll writes).1.locate path = .ok name ∧
      (d.writeAll writes).1.read path = d.read path := by
    refine writeAll_induction (P := fun e => e.locate path = .ok name ∧ e.read path = d.read path)
      ⟨hlocate, rfl⟩ ?_
    rintro e ⟨hat, hread⟩ w hw n hn hfits
    have hne : name ≠ n := by
      rintro rfl
      exact hother w hw hn
    obtain ⟨hat', hread'⟩ := hfits.read_put_of_ne w.2.toUTF8 hat hne
    exact ⟨hat', hread'.trans hread⟩
  exact hboth.2

/-- After all writes each file holds its text. -/
theorem read_of_writeAll (hdone : d.writeAll writes = (d', none))
    (hapart : writes.Pairwise fun v w => d.Apart v.1 w.1) :
    ∀ w ∈ writes, d'.read w.1 = .ok w.2.toUTF8 := by
  induction writes generalizing d with
  | nil => exact fun w hw => absurd hw List.not_mem_nil
  | cons w writes ih =>
    obtain ⟨hfirst, hrest⟩ := List.pairwise_cons.mp hapart
    rw [writeAll] at hdone
    cases hw : d.write w.1 w.2 with
    | error cause =>
      rw [hw] at hdone
      cases hdone
    | ok e =>
      rw [hw] at hdone
      dsimp only at hdone
      obtain ⟨n, hn, rfl⟩ := write_eq_ok_iff.mp hw
      refine List.forall_mem_cons.mpr ⟨?_, ih hdone (hrest.imp fun hvu m hv hu => ?_)⟩
      · have hkept : ((d.put n w.2.toUTF8).writeAll writes).1.read w.1 = .ok w.2.toUTF8 := by
          rw [read_writeAll_of_ne hn.locate_put, hn.read_put]
          intro v hv hleads
          exact hfirst v hv n (target_eq_ok_iff.mpr hn)
            (target_eq_ok_iff.mpr (hn.fits.leadsTo_put_iff.mp hleads))
        rw [hdone] at hkept
        exact hkept
      · rw [target_eq_ok_iff, hn.fits.leadsTo_put_iff, ← target_eq_ok_iff] at hv hu
        exact hvu m hv hu

theorem exists_writeAll (h : ∀ w ∈ writes, ∃ name, d.target w.1 = .ok name) :
    ∃ d', d.writeAll writes = (d', none) := by
  induction writes generalizing d with
  | nil => exact ⟨d, rfl⟩
  | cons w writes ih =>
    obtain ⟨⟨n, hn⟩, hrest⟩ := List.forall_mem_cons.mp h
    have hleads := target_eq_ok_iff.mp hn
    have hwrite : d.write w.1 w.2 = .ok (d.put n w.2.toUTF8) :=
      write_eq_ok_iff.mpr ⟨n, hleads, rfl⟩
    rw [writeAll, hwrite]
    refine ih fun v hv => ?_
    obtain ⟨m, hm⟩ := hrest v hv
    exact ⟨m, target_eq_ok_iff.mpr (hleads.fits.leadsTo_put_iff.mpr (target_eq_ok_iff.mp hm))⟩

end

end PathTiming.Disk
