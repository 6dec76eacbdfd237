import PathTiming.CommandLine.Run
import PathTiming.Proofs.JsonText

/-! What messages look like: each is shown once, in order, as a text with its place or as a JSON
object. -/
namespace PathTiming

/-! ### Texts -/

/-- The words for severities, each with the number of its colour. -/
def severityWords : List (Severity × String × String) :=
  [(.note, "note", "36"), (.warning, "warning", "33"), (.error, "error", "31")]

def areaLetters : List (Area × String) := [(.config, "C"), (.report, "R"), (.analysis, "A")]

/-- The word for a severity, in bold between the codes of its colour if it is coloured. -/
def SpellsSeverity (coloured : Bool) (s : Severity) (text : String) : Prop :=
  ∃ word colour, (s, word, colour) ∈ severityWords ∧
    text = if coloured then "\x1b[1;" ++ colour ++ "m" ++ word ++ "\x1b[0m" else word

/-- A letter and a number, with zeros before it only up to three digits. -/
def SpellsCode (c : DiagnosticCode) (text : String) : Prop :=
  ∃ letter zeros, (c.area, letter) ∈ areaLetters ∧
    text = letter ++ String.ofList (List.replicate zeros '0') ++ toString c.number ∧
    3 ≤ zeros + (toString c.number).length ∧
    (0 < zeros → zeros + (toString c.number).length = 3)

/-- The line that a message is about, with its number, between two rulers. -/
def excerptText (line : Nat) (text : String) : String :=
  let ruler := String.ofList (List.replicate (toString line).length ' ') ++ " |\n"
  ruler ++ toString line ++ " | " ++ text ++ "\n" ++ ruler

/-- How the place of a message is shown: not at all if no text has its number, and otherwise by the
name of the text, by the number of the line if there is one, and by the line itself. -/
inductive SpellsPlace (sources : Sources) (l : Location) : String → Prop
  | nowhere (hfile : sources.get? l.file = none) : SpellsPlace sources l ""
  | file {file : SourceFile} (hfile : sources.get? l.file = some file) (hline : l.line = 0) :
      SpellsPlace sources l ("  --> " ++ file.name ++ "\n")
  | pastEnd {file : SourceFile} (hfile : sources.get? l.file = some file) (hline : l.line ≠ 0)
      (htext : file.line? l.line = none) :
      SpellsPlace sources l ("  --> " ++ file.name ++ ":" ++ toString l.line ++ "\n")
  | line {file : SourceFile} {text : String} (hfile : sources.get? l.file = some file)
      (hline : l.line ≠ 0) (htext : file.line? l.line = some text) :
      SpellsPlace sources l
        ("  --> " ++ file.name ++ ":" ++ toString l.line ++ "\n" ++ excerptText l.line text)

/-- The text of a message: its severity and code, what it says, its place and its remarks. -/
def SpellsMessage (sources : Sources) (coloured : Bool) (d : Diagnostic) (text : String) : Prop :=
  ∃ severity code place, SpellsSeverity coloured d.severity severity ∧ SpellsCode d.code code ∧
    SpellsPlace sources d.location place ∧
    text = severity ++ "[" ++ code ++ "]: " ++ d.message ++ "\n" ++ place ++
      String.join (d.notes.map fun note => "   = note: " ++ note ++ "\n") ++
      String.join (d.help.map fun help => "   = help: " ++ help ++ "\n")

theorem spellsSeverity_styled (coloured : Bool) (s : Severity) :
    SpellsSeverity coloured s (s.styled coloured) := by
  refine ⟨s.label, s.colour, ?_, rfl⟩
  cases s <;> simp [severityWords, Severity.label, Severity.colour]

theorem spellsCode_label (c : DiagnosticCode) : SpellsCode c c.label := by
  refine ⟨c.area.letter, 3 - (toString c.number).length, ?_, ?_, by omega, by omega⟩
  · cases c.area <;> simp [areaLetters, Area.letter]
  · rw [DiagnosticCode.label, Text.padLeft, String.append_assoc]

theorem excerpt_eq (line : Nat) (text : String) :
    Diagnostic.excerpt line text = excerptText line text := by
  simp [Diagnostic.excerpt, excerptText, Text.padRight]

/-- The place of a message as it is shown. -/
theorem spellsPlace_describe? (sources : Sources) (l : Location) :
    SpellsPlace sources l
      (match sources.describe? l with
        | none => ""
        | some place => "  --> " ++ place ++ "\n" ++
          ((sources.lineText? l).map (Diagnostic.excerpt l.line)).getD "") := by
  unfold Sources.describe? Sources.lineText?
  cases hfile : sources.get? l.file with
  | none => exact .nowhere hfile
  | some file =>
    simp only [Option.map_some, Option.bind_some]
    by_cases hline : l.line = 0
    · have hnone : file.line? l.line = none := by
        rw [hline]
        exact if_pos (.inl rfl)
      rw [if_pos hline, hnone, Option.map_none, Option.getD_none, String.append_empty]
      exact .file hfile hline
    · rw [if_neg hline]
      have hplace : "  --> " ++ s!"{file.name}:{l.line}" ++ "\n" =
          "  --> " ++ file.name ++ ":" ++ toString l.line ++ "\n" := by
        simp [toString, String.append_assoc]
      rw [hplace]
      cases htext : file.line? l.line with
      | none =>
        rw [Option.map_none, Option.getD_none, String.append_empty]
        exact .pastEnd hfile hline htext
      | some text =>
        rw [Option.map_some, Option.getD_some, excerpt_eq]
        exact .line hfile hline htext

theorem spellsMessage_render (sources : Sources) (coloured : Bool) (d : Diagnostic) :
    SpellsMessage sources coloured d (d.render sources coloured) :=
  ⟨_, _, _, spellsSeverity_styled coloured d.severity, spellsCode_label d.code,
    spellsPlace_describe? sources d.location, rfl⟩

/-! A message has one text only. -/

theorem SpellsSeverity.unique {coloured : Bool} {s : Severity} {text text' : String}
    (h : SpellsSeverity coloured s text) (h' : SpellsSeverity coloured s text') : text = text' := by
  obtain ⟨word, colour, hword, rfl⟩ := h
  obtain ⟨word', colour', hword', rfl⟩ := h'
  have hsame : word = word' ∧ colour = colour' := by
    cases s <;> simp only [severityWords, List.mem_cons, Prod.mk.injEq, reduceCtorEq, false_and,
      true_and, false_or, or_false, List.not_mem_nil] at hword hword' <;> simp [hword, hword']
  rw [hsame.1, hsame.2]

theorem SpellsCode.unique {c : DiagnosticCode} {text text' : String} (h : SpellsCode c text)
    (h' : SpellsCode c text') : text = text' := by
  obtain ⟨letter, zeros, hletter, rfl, hlength, hfilled⟩ := h
  obtain ⟨letter', zeros', hletter', rfl, hlength', hfilled'⟩ := h'
  have hzeros : zeros = zeros' := by omega
  have hsame : letter = letter' := by
    cases harea : c.area <;> simp_all [areaLetters]
  rw [hzeros, hsame]

theorem SpellsPlace.unique {sources : Sources} {l : Location} {text text' : String}
    (h : SpellsPlace sources l text) (h' : SpellsPlace sources l text') : text = text' := by
  cases h <;> cases h' <;> simp_all

theorem SpellsMessage.unique {sources : Sources} {coloured : Bool} {d : Diagnostic}
    {text text' : String} (h : SpellsMessage sources coloured d text)
    (h' : SpellsMessage sources coloured d text') : text = text' := by
  obtain ⟨severity, code, place, hseverity, hcode, hplace, rfl⟩ := h
  obtain ⟨severity', code', place', hseverity', hcode', hplace', rfl⟩ := h'
  rw [hseverity.unique hseverity', hcode.unique hcode', hplace.unique hplace']

/-! ### JSON -/

def severityNames : List (Severity × String) :=
  [(.note, "Note"), (.warning, "Warning"), (.error, "Error")]

def areaNames : List (Area × String) :=
  [(.config, "Config"), (.report, "Report"), (.analysis, "Analysis")]

def IsMessageObject (d : Diagnostic) (value : Json) : Prop :=
  ∃ severity category, (d.severity, severity) ∈ severityNames ∧ (d.code.area, category) ∈ areaNames ∧
    value = .object [
      ("severity", .string severity),
      ("code", .object [
        ("category", .string category), ("number", .number (toString d.code.number))]),
      ("message", .string d.message),
      ("location", .object [
        ("file", .number (toString d.location.file.index)),
        ("line", .number (toString d.location.line))]),
      ("notes", .array (d.notes.map .string)),
      ("help", .array (d.help.map .string))]

theorem isMessageObject_toJson (d : Diagnostic) : IsMessageObject d d.toJson := by
  refine ⟨d.severity.jsonName, d.code.area.jsonName, ?_, ?_, rfl⟩
  · cases d.severity <;> simp [severityNames, Severity.jsonName]
  · cases d.code.area <;> simp [areaNames, Area.jsonName]

/-! ### All messages -/

/-- What is shown of messages: their texts one after another, or, if there are any, one line break
behind an array of their objects. -/
inductive Renders (o : Options) (terminal : Bool) (sources : Sources)
    (messages : List Diagnostic) : String → Prop
  | text {coloured : Bool} {texts : List String} (hformat : o.format = .text)
      (hcolour : coloured = true ↔ o.colour = .always ∨ o.colour = .auto ∧ terminal = true)
      (htexts : List.Forall₂ (SpellsMessage sources coloured) messages texts) :
      Renders o terminal sources messages (String.join texts)
  | silent (hformat : o.format = .json) (hnone : messages = []) :
      Renders o terminal sources messages ""
  | json {values : List Json} {text : String} (hformat : o.format = .json) (hsome : messages ≠ [])
      (hvalues : List.Forall₂ IsMessageObject messages values)
      (htext : Json.IsText (.array values) text) :
      Renders o terminal sources messages (text ++ "\n")

theorem isColoured_iff (o : Options) (terminal : Bool) :
    o.isColoured terminal = true ↔ o.colour = .always ∨ o.colour = .auto ∧ terminal = true := by
  unfold Options.isColoured
  cases o.colour <;> simp

theorem renders_messageText (o : Options) (terminal : Bool) (sources : Sources)
    (messages : List Diagnostic) :
    Renders o terminal sources messages (messageText o terminal sources messages) := by
  unfold messageText
  cases hformat : o.format with
  | text =>
    refine .text hformat (isColoured_iff o terminal) ?_
    exact List.forall₂_map_right_iff.mpr
      (List.forall₂_same.mpr fun d _ => spellsMessage_render sources _ d)
  | json =>
    cases messages with
    | nil => exact .silent hformat rfl
    | cons d ds =>
      refine .json hformat (List.cons_ne_nil d ds) ?_ (Json.isText_pretty _)
      exact List.forall₂_map_right_iff.mpr
        (List.forall₂_same.mpr fun d _ => isMessageObject_toJson d)

end PathTiming
