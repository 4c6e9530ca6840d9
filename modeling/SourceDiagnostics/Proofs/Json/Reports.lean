import Mathlib.Data.List.Forall2
import SourceDiagnostics.Json.Report
import SourceDiagnostics.Proofs.Json.Grammar

/-!
# Reports that read back

The text of a report stands for an object that holds what the report holds. Texts of values are
joined here as a report joins them, and each way of joining them is shown to stand for what it
should, whatever follows the text.
-/

namespace SourceDiagnostics.Json

open Text

/-! ### What is meant by a report -/

namespace Value

/-- A place as an object. -/
def ofPlace (place : Place) : Value :=
  .object [("line", .number place.line.toNat), ("column", .number place.column.toNat)]

/-- A role as it is named in documents. -/
def ofRole : Role → Value
  | .primary => .string "primary"
  | .secondary => .string "secondary"
  | .suggestion => .string "suggestion"

/-- A marked span as an object. -/
def ofMarkedSpan (marked : MarkedSpan) : Value :=
  .object [("kind", ofRole marked.marker.role), ("message", .string marked.marker.message),
    ("file", .string marked.span.file), ("begin", ofPlace marked.span.start),
    ("end", ofPlace marked.span.stop)]

/-- A kind of note as it is named in documents. -/
def ofNoteKind : NoteKind → Value
  | .note => .string "note"
  | .hint => .string "hint"

/-- A note as an object. -/
def ofNote (note : Note) : Value :=
  .object [("kind", ofNoteKind note.kind), ("message", .string note.message)]

/-- A code, or null where there is none. -/
def ofCode : Option String → Value
  | some code => .string code
  | none => .null

/-- A severity as it is named in documents. -/
def ofSeverity : Severity → Value
  | .error => .string "error"
  | .warning => .string "warning"

/-- A report as an object. -/
def ofReport (report : Report) : Value :=
  .object [("severity", ofSeverity report.severity), ("code", ofCode report.code),
    ("headline", .string report.headline),
    ("annotations", .array (report.annotations.map ofMarkedSpan)),
    ("notes", .array (report.notes.map ofNote))]

end Value

/-- Nothing that would go on with a number comes first. -/
def Stops (rest : List Char) : Prop :=
  ∀ c ∈ rest.head?, c.isDigit = false ∧ c ≠ '.' ∧ c ≠ 'e' ∧ c ≠ 'E'

/-- A text stands for a value, whatever ends it. -/
def Spells (text : String) (value : Value) : Prop :=
  ∀ rest, Stops rest → ReadsValue (skipBlanks (text.toList ++ rest)) value rest

/-! ### Numbers -/

private theorem eq_zero_of_head?_toDigits (n : Nat) :
    (Nat.toDigits 10 n).head? = some '0' → n = 0 := by
  induction n using Nat.strongRecOn with
  | ind n ih =>
    rw [Nat.toDigits_eq_if (by decide)]
    split
    · simp
    · next h =>
      intro hzero
      have hdiv : n / 10 = 0 := by
        apply ih (n / 10) (by omega)
        obtain ⟨c, digits, hdigits⟩ := List.exists_cons_of_ne_nil (@Nat.toDigits_ne_nil (n / 10) 10)
        rw [hdigits] at hzero ⊢
        exact hzero
      omega

private theorem readsDigits_toDigits (n : Nat) {rest : List Char} (h : Stops rest) :
    ReadsDigits (Nat.toDigits 10 n ++ rest) (Nat.toDigits 10 n) rest where
  split := rfl
  nonempty := Nat.toDigits_ne_nil
  isDigit := fun _ hc ↦ Nat.isDigit_of_mem_toDigits (by decide) (by decide) hc
  stop := fun c hc ↦ (h c hc).1

/-- A number in decimal reads back as itself. -/
theorem readsNumber_toDigits (n : Nat) {rest : List Char} (h : Stops rest) :
    ReadsNumber (Nat.toDigits 10 n ++ rest) n rest := by
  have hwhole : ReadsWhole (Nat.toDigits 10 n ++ rest) n rest := by
    have hzero : (Nat.toDigits 10 n).head? = some '0' → Nat.toDigits 10 n = ['0'] := by
      intro hz
      rw [eq_zero_of_head?_toDigits n hz]
      rfl
    have := ReadsWhole.intro (readsDigits_toDigits n h) hzero
    rwa [Nat.ofDigitChars_ten_toDigits] at this
  have hfraction : ReadsFraction rest 0 rest := by
    apply ReadsFraction.absent
    intro hdot
    exact (h '.' hdot).2.1 rfl
  have hexponent : ReadsExponent rest 0 rest := .absent fun c hc ↦ (h c hc).2.2
  have := ReadsUnsigned.intro hwhole hfraction hexponent
  rw [add_zero, zpow_zero, mul_one] at this
  exact .plain this

private theorem skipBlanks_of_head {c : Char} {chars : List Char} (h : c.isWhitespace = false) :
    skipBlanks (c :: chars) = c :: chars :=
  List.dropWhile_cons_of_neg (by simp [h])

/-- A line or column number stands for itself. -/
theorem spells_number (n : UInt32) : Spells (toString n) (.number n.toNat) := by
  intro rest h
  have hread := readsNumber_toDigits n.toNat h
  obtain ⟨c, digits, hdigits⟩ := List.exists_cons_of_ne_nil (@Nat.toDigits_ne_nil n.toNat 10)
  have hc : c.isDigit = true :=
    Nat.isDigit_of_mem_toDigits (by decide) (by decide) (hdigits ▸ List.mem_cons_self)
  have hblank : c.isWhitespace = false := by
    rw [← Bool.not_eq_true]
    intro hw
    have := isBlank_of_isWhitespace hw
    rw [isBlank_eq_false_of_isDigit hc] at this
    cases this
  rw [Numbering.toList_toString]
  rw [hdigits, List.cons_append] at hread ⊢
  rw [skipBlanks_of_head hblank]
  exact .number hread

/-! ### Strings -/

private theorem codeUnit?_leftpad : ∀ n < 0xA0,
    ((Nat.toDigits 16 n).leftpad 4 '0').length = 4 ∧
      codeUnit? ((Nat.toDigits 16 n).leftpad 4 '0') = some n := by
  decide +kernel

/-- A control character, which is written by its code point, reads back as itself. -/
theorem readsChars_escapeCodePoint {c : Char} {text chars rest : List Char}
    (hcontrol : isControl c = true) (h : ReadsChars text chars rest) :
    ReadsChars (escapeCodePoint c ++ text) (c :: chars) rest := by
  have hc : c.toNat < 0xA0 := by
    rw [isControl_iff] at hcontrol
    omega
  have hhigh : ¬IsHighSurrogate c.toNat := by
    rw [IsHighSurrogate]
    omega
  have hlow : ¬IsLowSurrogate c.toNat := by
    rw [IsLowSurrogate]
    omega
  obtain ⟨hlength, hunit⟩ := codeUnit?_leftpad c.toNat hc
  rw [escapeCodePoint]
  match hdigits : (Nat.toDigits 16 c.toNat).leftpad 4 '0', hlength with
  | [first, second, third, fourth], _ =>
    rw [hdigits] at hunit
    have hread := ReadsChars.unit hunit hhigh hlow h
    rwa [Char.ofNat_toNat] at hread

/-- A character reads back as itself. -/
theorem readsChars_escapeChar (c : Char) {text chars rest : List Char}
    (h : ReadsChars text chars rest) : ReadsChars (escapeChar c ++ text) (c :: chars) rest := by
  fun_cases escapeChar c with
  | case1 | case2 | case3 | case4 | case5 =>
    rename_i hc
    subst hc
    exact .short rfl h
  | case6 _ _ _ _ _ hcontrol => exact readsChars_escapeCodePoint hcontrol h
  | case7 hquote hbackslash _ _ _ hcontrol =>
    apply ReadsChars.plain _ hquote hbackslash h
    rw [isControl_iff] at hcontrol
    omega

/-- The inside of a string reads back as the text. -/
theorem readsChars_escape (chars rest : List Char) :
    ReadsChars (chars.flatMap escapeChar ++ '\x22' :: rest) chars rest := by
  induction chars with
  | nil => exact .close
  | cons c chars ih =>
    rw [List.flatMap_cons, List.append_assoc]
    exact readsChars_escapeChar c ih

private theorem toList_quote (text : String) :
    (quote text).toList = '\x22' :: (text.toList.flatMap escapeChar ++ ['\x22']) := by
  rw [quote, String.toList_append, String.toList_append, toList_escape]
  rfl

/-- A quoted text stands for itself. -/
theorem spells_quote (text : String) : Spells (quote text) (.string text) := by
  intro rest _
  rw [toList_quote, List.cons_append, List.append_assoc, skipBlanks_of_head (by decide)]
  have hread := ReadsValue.string (readsChars_escape text.toList rest)
  rwa [String.ofList_toList] at hread

/-- A code stands for itself, and a missing one for null. -/
theorem spells_ofCode (code : Option String) : Spells (ofCode code) (.ofCode code) := by
  cases code with
  | none => exact fun rest _ ↦ .null
  | some code => exact spells_quote code

/-- The name of a role between quotes stands for the role. -/
theorem spells_role (role : Role) : Spells ("\"" ++ (role.name ++ "\"")) (.ofRole role) := by
  cases role with
  | primary => exact spells_quote "primary"
  | secondary => exact spells_quote "secondary"
  | suggestion => exact spells_quote "suggestion"

/-- The name of a kind of note between quotes stands for the kind. -/
theorem spells_noteKind (kind : NoteKind) :
    Spells ("\"" ++ (kind.name ++ "\"")) (.ofNoteKind kind) := by
  cases kind with
  | note => exact spells_quote "note"
  | hint => exact spells_quote "hint"

/-- The name of a severity between quotes stands for the severity. -/
theorem spells_severity (severity : Severity) :
    Spells ("\"" ++ (severity.name ++ "\"")) (.ofSeverity severity) := by
  cases severity with
  | error => exact spells_quote "error"
  | warning => exact spells_quote "warning"

/-! ### Objects -/

private theorem skipBlanks_append {blanks chars : List Char}
    (h : ∀ c ∈ blanks, c.isWhitespace = true) : skipBlanks (blanks ++ chars) = skipBlanks chars :=
  List.dropWhile_append_of_pos h

private theorem skipBlanks_append_of_ne_nil {front back : List Char} (h : skipBlanks front ≠ []) :
    skipBlanks (front ++ back) = skipBlanks front ++ back := by
  rw [skipBlanks, skipBlanks, List.dropWhile_append, if_neg]
  rw [List.isEmpty_iff]
  exact h

/-- What stands in front of a value names the member. -/
def Names (lead name : String) : Prop := skipBlanks lead.toList = (quote name).toList ++ [':', ' ']

/-- A mark with nothing but blanks around it. -/
def Marked (text : String) (mark : Char) : Prop :=
  ∃ gap, skipBlanks text.toList = mark :: gap ∧ ∀ c ∈ gap, c.isWhitespace = true

/-- A text stands for the members of an object, and what follows it is behind the closing brace. -/
def SpellsMembers (text : String) (members : List (String × Value)) : Prop :=
  ∀ gap rest, (∀ c ∈ gap, c.isWhitespace = true) →
    ReadsMembers (gap ++ (text.toList ++ rest)) members rest

/-- A text begins with something that does not go on with a number. -/
def Ends (text : String) : Prop := ∀ rest, Stops (text.toList ++ rest)

private theorem ends_of_skipBlanks {text : String} {c : Char} {chars : List Char}
    (h : skipBlanks text.toList = c :: chars)
    (hc : c.isDigit = false ∧ c ≠ '.' ∧ c ≠ 'e' ∧ c ≠ 'E') : Ends text := by
  intro rest d hd
  cases htext : text.toList with
  | nil =>
    rw [htext] at h
    cases h
  | cons first others =>
    rw [htext] at h hd
    obtain rfl := Option.some.inj hd
    by_cases hblank : first.isWhitespace = true
    · simp only [Char.isWhitespace, Bool.or_eq_true, decide_eq_true_eq] at hblank
      rcases hblank with ((rfl | rfl) | rfl) | rfl <;> decide
    · rw [skipBlanks_of_head (by simpa using hblank)] at h
      obtain ⟨rfl, -⟩ := List.cons.inj h
      exact hc

private theorem readsMember_of_names {lead name text : String} {value : Value}
    {gap rest : List Char} (hlead : Names lead name) (htext : Spells text value)
    (hgap : ∀ c ∈ gap, c.isWhitespace = true) (hrest : Stops rest) :
    ReadsMember (gap ++ (lead.toList ++ (text.toList ++ rest))) (name, value) rest := by
  have hname := readsChars_escape name.toList (':' :: ' ' :: (text.toList ++ rest))
  have hopen : skipBlanks (gap ++ (lead.toList ++ (text.toList ++ rest))) = '\x22' ::
      (name.toList.flatMap escapeChar ++ '\x22' :: ':' :: ' ' :: (text.toList ++ rest)) := by
    rw [skipBlanks_append hgap, skipBlanks_append_of_ne_nil (by rw [hlead]; simp), hlead,
      toList_quote]
    simp
  have hvalue : ReadsValue (skipBlanks (' ' :: (text.toList ++ rest))) value rest :=
    htext rest hrest
  have hread := ReadsMember.intro hopen hname (skipBlanks_of_head (by decide)) hvalue
  rwa [String.ofList_toList] at hread

/-- The last member of an object. -/
theorem spellsMembers_last {lead name text close : String} {value : Value}
    (hlead : Names lead name) (htext : Spells text value)
    (hclose : skipBlanks close.toList = ['\x7d']) :
    SpellsMembers (lead ++ (text ++ close)) [(name, value)] := by
  intro gap rest hgap
  have hends := ends_of_skipBlanks hclose (by decide)
  rw [String.toList_append, String.toList_append, List.append_assoc, List.append_assoc]
  apply ReadsMembers.last (readsMember_of_names hlead htext hgap (hends rest))
  rw [skipBlanks_append_of_ne_nil (by rw [hclose]; simp), hclose]
  rfl

/-- A member of an object in front of others. -/
theorem spellsMembers_next {lead name text comma others : String} {value : Value}
    {members : List (String × Value)} (hlead : Names lead name) (htext : Spells text value)
    (hcomma : Marked comma ',') (hothers : SpellsMembers others members) :
    SpellsMembers (lead ++ (text ++ (comma ++ others))) ((name, value) :: members) := by
  intro gap rest hgap
  obtain ⟨gap', hmark, hgap'⟩ := hcomma
  have hends := ends_of_skipBlanks hmark (by decide)
  rw [String.toList_append, String.toList_append, String.toList_append, List.append_assoc,
    List.append_assoc, List.append_assoc]
  apply ReadsMembers.next (readsMember_of_names hlead htext hgap (hends _)) _
    (hothers gap' rest hgap')
  rw [skipBlanks_append_of_ne_nil (by rw [hmark]; simp), hmark]
  rfl

/-- Members between braces stand for an object. -/
theorem spells_object {brace text : String} {members : List (String × Value)}
    (hbrace : Marked brace '\x7b') (htext : SpellsMembers text members) :
    Spells (brace ++ text) (.object members) := by
  intro rest _
  obtain ⟨gap, hmark, hgap⟩ := hbrace
  rw [String.toList_append, List.append_assoc,
    skipBlanks_append_of_ne_nil (by rw [hmark]; simp), hmark]
  exact .object (htext gap rest hgap)

/-! ### Arrays -/

private theorem readsElements_blanks {blanks chars rest : List Char} {values : List Value}
    (hblanks : ∀ c ∈ blanks, c.isWhitespace = true) (h : ReadsElements chars values rest) :
    ReadsElements (blanks ++ chars) values rest := by
  cases h with
  | last hvalue hclose =>
    rw [← skipBlanks_append hblanks] at hvalue
    exact .last hvalue hclose
  | next hvalue hcomma hothers =>
    rw [← skipBlanks_append hblanks] at hvalue
    exact .next hvalue hcomma hothers

/-- Texts of values with commas between them stand for the elements of an array. -/
theorem readsElements_intercalate {texts : List String} {values : List Value} {close : String}
    {gap : List Char} (h : List.Forall₂ Spells texts values) (hne : texts ≠ [])
    (hclose : skipBlanks close.toList = ']' :: gap) (rest : List Char) :
    ReadsElements ((",\n".intercalate texts).toList ++ (close.toList ++ rest)) values
      (gap ++ rest) := by
  have hends := ends_of_skipBlanks hclose (by decide)
  induction h with
  | nil => exact absurd rfl hne
  | @cons text value texts values hvalue hothers ih =>
    cases hothers with
    | nil =>
      rw [String.intercalate_singleton]
      apply ReadsElements.last (hvalue _ (hends rest))
      rw [skipBlanks_append_of_ne_nil (by rw [hclose]; simp), hclose]
      rfl
    | cons hother hothers =>
      rw [String.intercalate_cons_cons, String.toList_append, String.toList_append,
        List.append_assoc, List.append_assoc]
      have hcomma : Ends ",\n" := ends_of_skipBlanks rfl (by decide)
      apply ReadsElements.next (hvalue _ (hcomma _)) (skipBlanks_of_head (by decide))
      have hfeed : ∀ c ∈ ['\n'], c.isWhitespace = true := List.forall_mem_singleton.mpr rfl
      exact readsElements_blanks hfeed (ih (List.cons_ne_nil _ _))

/-- Texts of values in brackets, with commas between them, stand for an array. -/
theorem readsValue_array {texts : List String} {values : List Value} {bracket close : String}
    {gap : List Char} (h : List.Forall₂ Spells texts values) (hbracket : Marked bracket '[')
    (hclose : skipBlanks close.toList = ']' :: gap) (rest : List Char) :
    ReadsValue (skipBlanks (bracket.toList ++
      ((",\n".intercalate texts).toList ++ (close.toList ++ rest)))) (.array values)
      (gap ++ rest) := by
  obtain ⟨gap', hmark, hgap'⟩ := hbracket
  rw [skipBlanks_append_of_ne_nil (by rw [hmark]; simp), hmark, List.cons_append]
  by_cases hne : texts = []
  · subst hne
    cases h
    apply ReadsValue.emptyArray
    rw [skipBlanks_append hgap', String.intercalate_nil, String.toList_empty, List.nil_append,
      skipBlanks_append_of_ne_nil (by rw [hclose]; simp), hclose]
    rfl
  · exact .array (readsElements_blanks hgap' (readsElements_intercalate h hne hclose rest))

theorem marked_bracket : Marked "[\n" '[' :=
  ⟨['\n'], rfl, List.forall_mem_singleton.mpr rfl⟩

private theorem elements_eq_intercalate {texts : List String} (hne : texts ≠ []) :
    elements texts = ",\n".intercalate texts ++ "\n" := by
  fun_induction elements texts with
  | case1 => exact absurd rfl hne
  | case2 last => rw [String.intercalate_singleton]
  | case3 element others hothers ih =>
    rw [ih hothers, String.intercalate_cons_of_ne_nil hothers]
    simp only [String.append_assoc]

/-- The elements of an array on lines of their own stand for the array. -/
theorem spells_elements {texts : List String} {values : List Value}
    (h : List.Forall₂ Spells texts values) :
    Spells ("[\n" ++ (elements texts ++ "    ]")) (.array values) := by
  intro rest _
  rw [String.toList_append, String.toList_append, List.append_assoc, List.append_assoc]
  by_cases hne : texts = []
  · have hclose : skipBlanks "    ]".toList = [']'] := rfl
    have hread := readsValue_array h marked_bracket hclose rest
    subst hne
    exact hread
  · have hclose : skipBlanks "\n    ]".toList = [']'] := rfl
    have hread := readsValue_array h marked_bracket hclose rest
    rw [elements_eq_intercalate hne, String.toList_append, List.append_assoc]
    exact hread

/-! ### Reports -/

private theorem marked_comma : Marked ", " ',' := ⟨[' '], rfl, List.forall_mem_singleton.mpr rfl⟩

private theorem marked_comma_lineFeed : Marked ",\n" ',' :=
  ⟨['\n'], rfl, List.forall_mem_singleton.mpr rfl⟩

/-- A place stands for its object. -/
theorem spells_ofPlace (place : Place) : Spells (ofPlace place) (.ofPlace place) := by
  have htext : ofPlace place = "\x7b" ++ (" \"line\": " ++ (toString place.line ++ (", " ++
      ("\"column\": " ++ (toString place.column ++ " \x7d"))))) := by
    have hopen : "\x7b \"line\": " = "\x7b" ++ " \"line\": " := by simp
    have hcomma : ", \"column\": " = ", " ++ "\"column\": " := by simp
    unfold ofPlace
    rw [hopen, hcomma]
    simp only [String.append_assoc]
  rw [htext]
  apply spells_object ⟨[], rfl, by simp⟩
  refine spellsMembers_next rfl (spells_number place.line) marked_comma ?_
  exact spellsMembers_last rfl (spells_number place.column) rfl

/-- A note stands for its object. -/
theorem spells_ofNote (note : Note) : Spells (ofNote note) (.ofNote note) := by
  have htext : ofNote note = "      \x7b" ++ (" \"kind\": " ++
      ("\"" ++ (note.kind.name ++ "\"") ++ (", " ++
      ("\"message\": " ++ (quote note.message ++ " \x7d"))))) := by
    have hopen : "      \x7b \"kind\": \"" = "      \x7b" ++ (" \"kind\": " ++ "\"") := by simp
    have hcomma : "\", \"message\": " = "\"" ++ (", " ++ "\"message\": ") := by simp
    unfold ofNote
    rw [hopen, hcomma]
    simp only [String.append_assoc]
  rw [htext]
  apply spells_object ⟨[], rfl, by simp⟩
  refine spellsMembers_next rfl (spells_noteKind note.kind) marked_comma ?_
  exact spellsMembers_last rfl (spells_quote note.message) rfl

/-- A marked span stands for its object. -/
theorem spells_ofMarkedSpan (marked : MarkedSpan) :
    Spells (ofMarkedSpan marked) (.ofMarkedSpan marked) := by
  have htext : ofMarkedSpan marked = "      \x7b\n" ++ ("        \"kind\": " ++
      ("\"" ++ (marked.marker.role.name ++ "\"") ++ (",\n" ++ ("        \"message\": " ++
      (quote marked.marker.message ++ (",\n" ++ ("        \"file\": " ++
      (quote marked.span.file ++ (",\n" ++ ("        \"begin\": " ++
      (ofPlace marked.span.start ++ (",\n" ++ ("        \"end\": " ++
      (ofPlace marked.span.stop ++ "\n      \x7d")))))))))))))) := by
    have hkind : "        \"kind\": \"" = "        \"kind\": " ++ "\"" := by simp
    have hcomma : "\",\n" = "\"" ++ ",\n" := by simp
    have hclose : "\n      \x7d" = "\n" ++ "      \x7d" := by simp
    unfold ofMarkedSpan
    rw [hkind, hcomma, hclose]
    simp only [String.append_assoc]
  rw [htext]
  apply spells_object ⟨['\n'], rfl, List.forall_mem_singleton.mpr rfl⟩
  refine spellsMembers_next rfl (spells_role _) marked_comma_lineFeed ?_
  refine spellsMembers_next rfl (spells_quote _) marked_comma_lineFeed ?_
  refine spellsMembers_next rfl (spells_quote _) marked_comma_lineFeed ?_
  refine spellsMembers_next rfl (spells_ofPlace _) marked_comma_lineFeed ?_
  exact spellsMembers_last rfl (spells_ofPlace _) rfl

/-- Items whose texts stand for their values make texts that stand for the values one by one. -/
theorem forall₂_spells_map {α : Type} {text : α → String} {value : α → Value}
    (h : ∀ item, Spells (text item) (value item)) (items : List α) :
    List.Forall₂ Spells (items.map text) (items.map value) := by
  induction items with
  | nil => exact .nil
  | cons item items ih => exact .cons (h item) ih

/-- A report stands for its object. -/
theorem spells_ofReport (report : Report) : Spells (ofReport report) (.ofReport report) := by
  have htext : ofReport report = "  \x7b\n" ++ ("    \"severity\": " ++
      ("\"" ++ (report.severity.name ++ "\"") ++ (",\n" ++ ("    \"code\": " ++
      (ofCode report.code ++ (",\n" ++ ("    \"headline\": " ++
      (quote report.headline ++ (",\n" ++ ("    \"annotations\": " ++
      ("[\n" ++ (elements (report.annotations.map ofMarkedSpan) ++ "    ]") ++ (",\n" ++
      ("    \"notes\": " ++ ("[\n" ++ (elements (report.notes.map ofNote) ++ "    ]") ++
      "\n  \x7d")))))))))))))) := by
    have hseverity : "    \"severity\": \"" = "    \"severity\": " ++ "\"" := by simp
    have hcomma : "\",\n" = "\"" ++ ",\n" := by simp
    have hannotations : "    \"annotations\": [\n" = "    \"annotations\": " ++ "[\n" := by simp
    have hbracket : "    ],\n" = "    ]" ++ ",\n" := by simp
    have hnotes : "    \"notes\": [\n" = "    \"notes\": " ++ "[\n" := by simp
    have hclose : "    ]\n" = "    ]" ++ "\n" := by simp
    have hbrace : "\n  \x7d" = "\n" ++ "  \x7d" := by simp
    unfold ofReport
    rw [hseverity, hcomma, hannotations, hbracket, hnotes, hclose, hbrace]
    simp only [String.append_assoc]
  rw [htext]
  apply spells_object ⟨['\n'], rfl, List.forall_mem_singleton.mpr rfl⟩
  refine spellsMembers_next rfl (spells_severity _) marked_comma_lineFeed ?_
  refine spellsMembers_next rfl (spells_ofCode _) marked_comma_lineFeed ?_
  refine spellsMembers_next rfl (spells_quote _) marked_comma_lineFeed ?_
  refine spellsMembers_next rfl (spells_elements (forall₂_spells_map spells_ofMarkedSpan _))
    marked_comma_lineFeed ?_
  exact spellsMembers_last rfl (spells_elements (forall₂_spells_map spells_ofNote _)) rfl

end SourceDiagnostics.Json
