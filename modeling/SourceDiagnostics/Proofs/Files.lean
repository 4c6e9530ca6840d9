import Mathlib.Data.List.Induction
import SourceDiagnostics.Diagnostic.Basic
import SourceDiagnostics.Proofs.ByteOrder

/-!
# Files by name

Files can be put together from entries, of which the last one with a name counts, and can be taken
apart into entries of which no two have one name. Their names are listed in the order of the bytes.
-/

namespace SourceDiagnostics.Files

/-- Of the entries with one name the last one counts. -/
theorem getElem?_ofList (entries : List (String × String)) (name : String) :
    (Std.ExtTreeMap.ofList entries : Files)[name]? = entries.reverse.lookup name := by
  induction entries using List.reverseRecOn with
  | nil => rfl
  | append_singleton entries entry ih =>
    have hlast : (Std.ExtTreeMap.ofList (entries ++ [entry]) : Files) =
        (Std.ExtTreeMap.ofList entries).insert entry.1 entry.2 := by
      rw [Std.ExtTreeMap.ofList_eq_insertMany_empty, Std.ExtTreeMap.insertMany_append,
        Std.ExtTreeMap.insertMany_list_singleton, Std.ExtTreeMap.ofList_eq_insertMany_empty]
    rw [hlast, Std.ExtTreeMap.getElem?_insert, ih, List.reverse_append, List.reverse_singleton,
      List.singleton_append, List.lookup_cons]
    by_cases hname : name = entry.1
    · rw [hname, Std.ReflOrd.compare_self, if_pos rfl, beq_self_eq_true]
    · have hne : compare entry.1 name ≠ .eq := fun he ↦
        hname (Std.LawfulEqOrd.eq_of_compare he).symm
      rw [if_neg hne, beq_eq_false_iff_ne.mpr hname]

/-- Files are put together again from their entries in any order. -/
theorem ofList_of_perm {entries : List (String × String)} {files : Files}
    (h : entries.Perm files.toList) : Std.ExtTreeMap.ofList entries = files := by
  have hdistinct : entries.Pairwise fun a b ↦ ¬compare a.1 b.1 = .eq := by
    apply h.symm.pairwise files.distinct_keys_toList
    exact fun hne he ↦ hne (Std.OrientedCmp.eq_comm.mp he)
  apply Std.ExtTreeMap.ext_getElem?
  intro name
  cases hname : files[name]? with
  | some contents =>
    have hmem := h.mem_iff.mpr (Std.ExtTreeMap.mem_toList_iff_getElem?_eq_some.mpr hname)
    exact Std.ExtTreeMap.getElem?_ofList_of_mem Std.ReflCmp.compare_self hdistinct hmem
  | none =>
    rw [getElem?_ofList, List.lookup_eq_none_iff]
    intro entry hentry
    rw [bne_iff_ne]
    rintro rfl
    rw [List.mem_reverse, h.mem_iff] at hentry
    have := Std.ExtTreeMap.mem_toList_iff_getElem?_eq_some.mp hentry
    rw [hname] at this
    cases this

/-- A file is found among the entries of the files. -/
theorem lookup_toList (files : Files) (name : String) :
    files.toList.lookup name = files[name]? := by
  have hperm : files.toList.reverse.Perm files.toList := files.toList.reverse_perm
  rw [← ofList_of_perm hperm, getElem?_ofList, List.reverse_reverse, ofList_of_perm hperm]

/-- The names of files are in the order of their bytes, and none of them comes twice. -/
theorem pairwise_keys (files : Files) :
    files.keys.Pairwise fun a b ↦ Text.utf8 a.toList < Text.utf8 b.toList := by
  apply files.ordered_keys.imp
  intro a b h
  exact Text.lt_iff_utf8_lt.mp (compareOfLessAndEq_eq_lt.mp h)

/-- The names of files are those that have contents. -/
theorem mem_keys_iff {files : Files} {name : String} :
    name ∈ files.keys ↔ files[name]?.isSome = true := by
  rw [Std.ExtTreeMap.mem_keys, Std.ExtTreeMap.mem_iff_isSome_getElem?]

end SourceDiagnostics.Files
