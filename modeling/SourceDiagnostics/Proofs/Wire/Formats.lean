import SourceDiagnostics.Proofs.Utf8
import SourceDiagnostics.Wire.Format

/-!
# Exact formats

A format is exact when reading finds a value where its bytes stand and nowhere else, and tells of
bytes that are cut off within a value that they are too short, whatever is cut. Each way to put
formats together keeps them exact, as long as the sizes of what is written can be told by a count.
-/

namespace SourceDiagnostics.Wire

namespace Format

variable {α β κ : Type}

/-- Reading finds the values that fit where their bytes are and nowhere else, and bytes that end
before those of such a value do are too short. -/
structure IsExact (format : Format α) (Fits : α → Prop) : Prop where
  read_iff : ∀ {bytes value rest}, format.read bytes = .ok (value, rest) ↔
    Fits value ∧ bytes = format.write value ++ rest
  read_cut : ∀ {value front back}, Fits value → format.write value = front ++ back → back ≠ [] →
    format.read front = .error .tooShort

/-- What is written of a value that fits is read back, whatever stands behind it. -/
theorem IsExact.read_write {format : Format α} {Fits : α → Prop} (h : format.IsExact Fits)
    {value : α} (hfits : Fits value) (rest : List UInt8) :
    format.read (format.write value ++ rest) = .ok (value, rest) :=
  h.read_iff.mpr ⟨hfits, rfl⟩

/-! ### One format behind another -/

/-- An answer of two steps is that of the second one on the answer of the first. -/
theorem bind_eq_ok_iff {ε : Type} {first : Except ε α} {second : α → Except ε β} {answer : β} :
    first >>= second = .ok answer ↔ ∃ value, first = .ok value ∧ second value = .ok answer := by
  cases first with
  | error e => simp [bind, Except.bind]
  | ok value => simp [bind, Except.bind]

/-- A cut through two parts is within the first one or else behind it. -/
theorem cut_cases {first second front back : List α} (h : first ++ second = front ++ back) :
    (∃ more, more ≠ [] ∧ first = front ++ more) ∨
      ∃ middle, front = first ++ middle ∧ second = middle ++ back := by
  rcases List.append_eq_append_iff.mp h with ⟨middle, hfront, hsecond⟩ | ⟨more, hfirst, hrest⟩
  · exact .inr ⟨middle, hfront, hsecond⟩
  · by_cases hmore : more = []
    · subst hmore
      rw [List.append_nil] at hfirst
      exact .inr ⟨[], by rw [hfirst, List.append_nil], hrest.symm⟩
    · exact .inl ⟨more, hmore, hfirst⟩

/-- A format is exact that has an exact head in front and behind it, in a way that the head
decides, an exact body. -/
theorem isExact_of_head {format : Format α} {head : Format κ} {HeadFits : κ → Prop}
    {Fits : α → Prop} {key : α → κ} {body : κ → Format α} (hhead : head.IsExact HeadFits)
    (hbody : ∀ k, (body k).IsExact fun value ↦ key value = k ∧ Fits value)
    (hwrite : ∀ value, format.write value =
      head.write (key value) ++ (body (key value)).write value)
    (hread : ∀ bytes, format.read bytes =
      head.read bytes >>= fun found ↦ (body found.1).read found.2) :
    format.IsExact fun value ↦ HeadFits (key value) ∧ Fits value where
  read_iff {bytes value rest} := by
    rw [hread, bind_eq_ok_iff, hwrite, List.append_assoc]
    constructor
    · rintro ⟨⟨k, middle⟩, hk, hvalue⟩
      obtain ⟨hfits, rfl⟩ := hhead.read_iff.mp hk
      obtain ⟨⟨rfl, hfits'⟩, rfl⟩ := (hbody k).read_iff.mp hvalue
      exact ⟨⟨hfits, hfits'⟩, rfl⟩
    · rintro ⟨⟨hfits, hfits'⟩, rfl⟩
      exact ⟨_, hhead.read_write hfits _, (hbody _).read_write ⟨rfl, hfits'⟩ rest⟩
  read_cut {value front back} hfits hcut hback := by
    rw [hwrite] at hcut
    rw [hread]
    rcases cut_cases hcut with ⟨more, hmore, hhere⟩ | ⟨middle, rfl, hbehind⟩
    · rw [hhead.read_cut hfits.1 hhere hmore]
      rfl
    · rw [hhead.read_write hfits.1]
      exact (hbody _).read_cut ⟨rfl, hfits.2⟩ hbehind hback

/-- Exactness goes over to a format that writes, for each value that fits, the value of another
type that stands for it. -/
theorem IsExact.map {format : Format α} {format' : Format β} {Fits : α → Prop}
    {Fits' : β → Prop} {toValue : α → β} (h : format.IsExact Fits)
    (hread : ∀ bytes, format'.read bytes =
      format.read bytes >>= fun found ↦ .ok (toValue found.1, found.2))
    (hwrite : ∀ a, Fits a → format'.write (toValue a) = format.write a)
    (hfits : ∀ b, Fits' b ↔ ∃ a, Fits a ∧ toValue a = b) : format'.IsExact Fits' where
  read_iff {bytes value rest} := by
    rw [hread, bind_eq_ok_iff, hfits]
    constructor
    · rintro ⟨⟨a, rest⟩, ha, hvalue⟩
      cases hvalue
      obtain ⟨hfit, rfl⟩ := h.read_iff.mp ha
      exact ⟨⟨a, hfit, rfl⟩, by rw [hwrite a hfit]⟩
    · rintro ⟨⟨a, hfit, rfl⟩, rfl⟩
      rw [hwrite a hfit]
      exact ⟨_, h.read_write hfit rest, rfl⟩
  read_cut {value front back} hfit' hcut hback := by
    obtain ⟨a, hfit, rfl⟩ := (hfits value).mp hfit'
    rw [hwrite a hfit] at hcut
    rw [hread, h.read_cut hfit hcut hback]
    rfl

theorem read_convert (format : Format α) (toValue : α → β) (ofValue : β → α)
    (bytes : List UInt8) :
    (format.convert toValue ofValue).read bytes =
      format.read bytes >>= fun found ↦ .ok (toValue found.1, found.2) := rfl

/-- Exactness goes over to the values of another type that stand for those that fit, one for
each. -/
theorem IsExact.convert {format : Format α} {Fits : α → Prop} {Fits' : β → Prop}
    {toValue : α → β} {ofValue : β → α} (h : format.IsExact Fits)
    (hto : ∀ a, Fits a → Fits' (toValue a) ∧ ofValue (toValue a) = a)
    (hof : ∀ b, Fits' b → Fits (ofValue b) ∧ toValue (ofValue b) = b) :
    (format.convert toValue ofValue).IsExact Fits' := by
  apply h.map (read_convert format toValue ofValue)
  · exact fun a hfit ↦ congrArg format.write (hto a hfit).2
  · intro b
    constructor
    · exact fun hfit' ↦ ⟨ofValue b, hof b hfit'⟩
    · rintro ⟨a, hfit, rfl⟩
      exact (hto a hfit).1

theorem IsExact.congr {format : Format α} {Fits Fits' : α → Prop} (h : format.IsExact Fits)
    (hiff : ∀ value, Fits value ↔ Fits' value) : format.IsExact Fits' := by
  rwa [← funext fun value ↦ propext (hiff value)]

/-! ### Numbers -/

/-- How many numbers there are in as many bytes. -/
def capacity : Nat → Nat
  | 0 => 1
  | width + 1 => 256 * capacity width

private theorem readLittleEndian_iff {width n : Nat} {bytes rest : List UInt8} :
    readLittleEndian width bytes = .ok (n, rest) ↔
      n < capacity width ∧ bytes = littleEndian width n ++ rest := by
  induction width generalizing n bytes with
  | zero =>
    rw [readLittleEndian, littleEndian, capacity, Nat.lt_one_iff, List.nil_append]
    simp only [Except.ok.injEq, Prod.mk.injEq, eq_comm]
  | succ width ih =>
    cases bytes with
    | nil =>
      rw [readLittleEndian, littleEndian, List.cons_append]
      simp
    | cons byte bytes =>
      have hbyte := byte.toNat_lt
      rw [readLittleEndian, bind_eq_ok_iff, littleEndian, List.cons_append, List.cons.injEq,
        capacity]
      constructor
      · rintro ⟨⟨m, rest⟩, hm, hn⟩
        cases hn
        obtain ⟨hlt, rfl⟩ := ih.mp hm
        have hdiv : (byte.toNat + 256 * m) / 256 = m := by omega
        refine ⟨by omega, ?_, by rw [hdiv]⟩
        rw [← UInt8.toNat_inj, UInt8.toNat_ofNat']
        omega
      · rintro ⟨hlt, rfl, rfl⟩
        refine ⟨(n / 256, rest), ih.mpr ⟨by omega, rfl⟩, ?_⟩
        show Except.ok ((UInt8.ofNat n).toNat + 256 * (n / 256), rest) = _
        have hn : (UInt8.ofNat n).toNat + 256 * (n / 256) = n := by
          rw [UInt8.toNat_ofNat']
          omega
        rw [hn]

private theorem readLittleEndian_cut {width n : Nat} {front back : List UInt8}
    (hcut : littleEndian width n = front ++ back) (hback : back ≠ []) :
    readLittleEndian width front = .error .tooShort := by
  induction width generalizing n front with
  | zero => exact absurd (List.append_eq_nil_iff.mp hcut.symm).2 hback
  | succ width ih =>
    cases front with
    | nil => rfl
    | cons byte front =>
      rw [littleEndian, List.cons_append, List.cons.injEq] at hcut
      rw [readLittleEndian, ih hcut.2]
      rfl

/-- Numbers that fit into the bytes are written exactly. -/
theorem isExact_number (width : Nat) : (number width).IsExact (· < capacity width) where
  read_iff := readLittleEndian_iff
  read_cut _ := readLittleEndian_cut

theorem isExact_count : count.IsExact (· < UInt64.size) :=
  isExact_number 8

theorem isExact_word : word.IsExact fun _ ↦ True :=
  (isExact_number 4).convert (fun _ hn ↦ ⟨trivial, UInt32.toNat_ofNat_of_lt' hn⟩)
    fun w _ ↦ ⟨w.toNat_lt_size, UInt32.ofNat_toNat⟩

/-! ### Texts -/

/-- A text of a known number of bytes. -/
def textOf (size : Nat) : Format String where
  write value := Text.utf8 value.toList
  read bytes := do
    if bytes.length < size then throw .tooShort
    match String.fromUTF8? ⟨(bytes.take size).toArray⟩ with
    | some value => return (value, bytes.drop size)
    | none => throw .notUtf8

/-- Bytes are those of a text exactly when the text is read from them. -/
theorem fromUTF8?_eq_some_iff {bytes : List UInt8} {value : String} :
    String.fromUTF8? ⟨bytes.toArray⟩ = some value ↔ bytes = Text.utf8 value.toList := by
  have hbytes : bytes = Text.utf8 value.toList ↔ value.toByteArray = ⟨bytes.toArray⟩ := by
    rw [← Text.toByteArray_utf8, ByteArray.ext_iff, List.data_toByteArray, Array.mk.injEq, eq_comm]
  rw [hbytes, String.fromUTF8?]
  split
  · next h => rw [Option.some.injEq, ← String.toByteArray_inj, eq_comm]; rfl
  · next h =>
    simp only [reduceCtorEq, false_iff]
    intro he
    exact h (he ▸ value.isValidUTF8)

theorem isExact_textOf (size : Nat) :
    (textOf size).IsExact fun value ↦ value.utf8ByteSize = size where
  read_iff {bytes value rest} := by
    have hlength : (Text.utf8 value.toList).length = value.utf8ByteSize := by
      rw [Text.length_utf8, Text.utf8Length_toList]
    simp only [textOf]
    constructor
    · intro h
      split at h
      · cases h
      · next hsize =>
        split at h
        · next found hfound =>
          cases h
          rw [fromUTF8?_eq_some_iff] at hfound
          refine ⟨?_, ?_⟩
          · rw [← hlength, ← hfound, List.length_take]
            omega
          · rw [← hfound, List.take_append_drop]
        · cases h
    · rintro ⟨rfl, rfl⟩
      rw [← hlength, List.take_left, List.drop_left, fromUTF8?_eq_some_iff.mpr rfl,
        if_neg (by rw [List.length_append]; omega)]
      rfl
  read_cut {value front back} hfits hcut hback := by
    have hlength := congrArg List.length hcut
    have hpos := List.length_pos_iff.mpr hback
    have hsize : (Text.utf8 value.toList).length = size := by
      rw [Text.length_utf8, Text.utf8Length_toList, hfits]
    simp only [textOf, hsize, List.length_append] at hlength ⊢
    rw [if_pos (by omega)]
    rfl

/-- A text is written exactly whose bytes a count can tell. -/
theorem isExact_text : text.IsExact fun value ↦ value.utf8ByteSize < UInt64.size := by
  have hbody : ∀ size, (textOf size).IsExact fun value ↦ value.utf8ByteSize = size ∧ True :=
    fun size ↦ (isExact_textOf size).congr fun _ ↦ (and_iff_left trivial).symm
  have hwrite : ∀ value, text.write value =
      count.write value.utf8ByteSize ++ (textOf value.utf8ByteSize).write value := by
    intro value
    rw [← Text.utf8Length_toList]
    rfl
  exact (isExact_of_head isExact_count hbody hwrite fun _ ↦ rfl).congr fun _ ↦ and_iff_left trivial

/-! ### Pairs, options, lists and variants -/

/-- Two exact formats are exact together. -/
theorem IsExact.pair {first : Format α} {second : Format β} {Fits : α → Prop} {Fits' : β → Prop}
    (hfirst : first.IsExact Fits) (hsecond : second.IsExact Fits') :
    (first.pair second).IsExact fun value ↦ Fits value.1 ∧ Fits' value.2 := by
  have hbody : ∀ a, (second.convert (a, ·) Prod.snd).IsExact
      fun value : α × β ↦ value.1 = a ∧ Fits' value.2 := by
    intro a
    apply hsecond.convert
    · exact fun b hb ↦ ⟨⟨rfl, hb⟩, rfl⟩
    · rintro ⟨a, b⟩ ⟨rfl, hb⟩
      exact ⟨hb, rfl⟩
  exact isExact_of_head hfirst hbody (fun _ ↦ rfl) fun _ ↦ rfl

theorem read_option_some (format : Format α) (bytes : List UInt8) :
    format.option.read (1 :: bytes) =
      format.read bytes >>= fun found ↦ .ok (some found.1, found.2) := rfl

theorem read_option_of_ne (format : Format α) {flag : UInt8} (hnone : flag ≠ 0) (hsome : flag ≠ 1)
    (bytes : List UInt8) : format.option.read (flag :: bytes) = .error (.badFlag flag) := by
  simp only [Format.option, if_neg hnone, if_neg hsome]
  rfl

/-- A value that may be missing is written exactly if it is when it is there. -/
theorem IsExact.option {format : Format α} {Fits : α → Prop} (h : format.IsExact Fits) :
    format.option.IsExact fun value ↦ ∀ a ∈ value, Fits a where
  read_iff {bytes value rest} := by
    cases bytes with
    | nil => cases value <;> simp [Format.option]
    | cons flag bytes =>
      by_cases hnone : flag = 0
      · subst hnone
        show Except.ok (none, bytes) = Except.ok (value, rest) ↔ _
        cases value <;> simp [Format.option, eq_comm]
      · by_cases hsome : flag = 1
        · subst hsome
          rw [read_option_some, bind_eq_ok_iff]
          cases value with
          | none => simp [Format.option]
          | some a => simpa [Format.option] using h.read_iff
        · rw [read_option_of_ne format hnone hsome]
          cases value <;> simp [Format.option, hnone, hsome]
  read_cut {value front back} hfits hcut hback := by
    cases front with
    | nil => rfl
    | cons flag front =>
      cases value with
      | none =>
        rw [Format.option, List.cons_append, List.cons.injEq] at hcut
        exact absurd (List.append_eq_nil_iff.mp hcut.2.symm).2 hback
      | some a =>
        simp only [Format.option, List.cons_append, List.cons.injEq] at hcut
        obtain ⟨rfl, hcut⟩ := hcut
        rw [read_option_some, h.read_cut (hfits a rfl) hcut hback]
        rfl

/-- Values one behind the other, of a known number. -/
def many (format : Format α) (n : Nat) : Format (List α) :=
  ⟨fun values ↦ values.flatMap format.write, format.readMany n⟩

/-- One value more is read as one value and then the others. -/
theorem read_many_succ (format : Format α) (n : Nat) (bytes : List UInt8) :
    (format.many (n + 1)).read bytes = (format.pair (format.many n)).read bytes >>= fun found ↦
      .ok (Function.uncurry List.cons found.1, found.2) := by
  show (format.read bytes >>= fun found ↦ format.readMany n found.2 >>= fun more ↦
      .ok (found.1 :: more.1, more.2)) =
    (format.read bytes >>= fun found ↦ format.readMany n found.2 >>= fun more ↦
      .ok ((found.1, more.1), more.2)) >>= _
  cases format.read bytes with
  | error e => rfl
  | ok found =>
    show (format.readMany n found.2 >>= _) = (format.readMany n found.2 >>= _) >>= _
    cases format.readMany n found.2 <;> rfl

theorem IsExact.many {format : Format α} {Fits : α → Prop} (h : format.IsExact Fits) (n : Nat) :
    (format.many n).IsExact fun values ↦ values.length = n ∧ ∀ value ∈ values, Fits value := by
  induction n with
  | zero =>
    constructor
    · intro bytes values rest
      show Except.ok ([], bytes) = Except.ok (values, rest) ↔ _
      cases values <;> simp [Format.many]
    · intro values front back hfits hcut hback
      rw [List.length_eq_zero_iff.mp hfits.1] at hcut
      exact absurd (List.append_eq_nil_iff.mp hcut.symm).2 hback
  | succ n ih =>
    apply (h.pair ih).map (read_many_succ format n)
    · exact fun found _ ↦ List.flatMap_cons
    · intro values
      constructor
      · rintro ⟨hlength, hfits⟩
        cases values with
        | nil => cases hlength
        | cons value values =>
          rw [List.forall_mem_cons] at hfits
          exact ⟨(value, values), ⟨hfits.1, Nat.succ.inj hlength, hfits.2⟩, rfl⟩
      · rintro ⟨⟨value, values⟩, ⟨hvalue, rfl, hvalues⟩, rfl⟩
        exact ⟨rfl, List.forall_mem_cons.mpr ⟨hvalue, hvalues⟩⟩

/-- As many values are written exactly as a count can tell. -/
theorem IsExact.list {format : Format α} {Fits : α → Prop} (h : format.IsExact Fits) :
    format.list.IsExact fun values ↦ values.length < UInt64.size ∧ ∀ value ∈ values, Fits value :=
  isExact_of_head isExact_count h.many (fun _ ↦ rfl) fun _ ↦ rfl

/-- The listed values are written exactly if none is listed twice. -/
theorem isExact_variant [BEq α] [LawfulBEq α] {values : List α} (hnodup : values.Nodup)
    (hlength : values.length ≤ capacity 4) : (variant values).IsExact (· ∈ values) where
  read_iff {bytes value rest} := by
    show ((number 4).read bytes >>= _) = .ok (value, rest) ↔
      _ ∧ bytes = (number 4).write (values.idxOf value) ++ rest
    rw [bind_eq_ok_iff]
    constructor
    · rintro ⟨⟨index, rest⟩, hindex, hvalue⟩
      obtain ⟨-, rfl⟩ := (isExact_number 4).read_iff.mp hindex
      cases hfound : values[index]? with
      | none =>
        simp only [hfound] at hvalue
        cases hvalue
      | some found =>
        simp only [hfound] at hvalue
        cases hvalue
        obtain ⟨hlt, hget⟩ := List.getElem?_eq_some_iff.mp hfound
        refine ⟨List.mem_of_getElem? hfound, ?_⟩
        rw [← hget, hnodup.idxOf_getElem index hlt]
    · rintro ⟨hmem, rfl⟩
      have hlt := List.idxOf_lt_length_iff.mpr hmem
      refine ⟨_, (isExact_number 4).read_write (by omega) rest, ?_⟩
      simp only [List.getElem?_eq_getElem hlt, List.getElem_idxOf]
      rfl
  read_cut {value front back} hmem hcut hback := by
    have hlt := List.idxOf_lt_length_iff.mpr hmem
    show ((number 4).read front >>= _) = _
    rw [(isExact_number 4).read_cut (by omega) hcut hback]
    rfl

end Format

end SourceDiagnostics.Wire
