import Mathlib.Algebra.GroupWithZero.Nat
import Mathlib.Data.List.Nodup
import PhpLexicon.Proofs.Acceptance

/-!
# Listings of a vocabulary

The listing of a kind is sorted, and it holds the spellings that are registered with the kind.  A
spelling has one kind and every kind is listed, so the listings of all kinds part the spellings of
the vocabulary among them.
-/

namespace PhpLexicon.Vocabulary

variable {vocabulary : Vocabulary} {kind : Kind}

@[simp]
theorem mem_ascending {entry : Entry} :
    entry ∈ vocabulary.ascending ↔ entry ∈ vocabulary.entries :=
  List.mem_mergeSort

theorem perm_spellingsOf :
    (vocabulary.spellingsOf kind).Perm
      ((vocabulary.entries.filter (fun entry => entry.kind == kind)).map Entry.spelling) :=
  List.mergeSort_perm _ _

@[simp]
theorem mem_spellingsOf {spelling : String} :
    spelling ∈ vocabulary.spellingsOf kind ↔ ⟨spelling, kind⟩ ∈ vocabulary.entries := by
  rw [perm_spellingsOf.mem_iff, List.mem_map]
  constructor
  · rintro ⟨entry, hentry, rfl⟩
    rw [List.mem_filter, beq_iff_eq] at hentry
    rw [← hentry.2]
    exact hentry.1
  · intro hmem
    refine ⟨⟨spelling, kind⟩, ?_, rfl⟩
    rw [List.mem_filter, beq_iff_eq]
    exact ⟨hmem, rfl⟩

theorem pairwise_le_spellingsOf :
    (vocabulary.spellingsOf kind).Pairwise fun left right => left ≤ right := by
  have hsorted : (vocabulary.spellingsOf kind).Pairwise fun left right =>
      decide (left ≤ right) = true := by
    apply List.pairwise_mergeSort
    · intro left middle right hleft hright
      rw [decide_eq_true_iff] at hleft hright ⊢
      exact String.le_trans hleft hright
    · intro left right
      rw [Bool.or_eq_true, decide_eq_true_iff, decide_eq_true_iff]
      exact String.le_total left right
  exact hsorted.imp of_decide_eq_true

theorem nodup_spellingsOf : (vocabulary.spellingsOf kind).Nodup := by
  have hsublist : ((vocabulary.entries.filter (fun entry => entry.kind == kind)).map
      Entry.spelling).Sublist (vocabulary.entries.map Entry.spelling) :=
    List.filter_sublist.map Entry.spelling
  exact perm_spellingsOf.nodup_iff.mpr (vocabulary.nodup_spellings.sublist hsublist)

theorem pairwise_lt_spellingsOf :
    (vocabulary.spellingsOf kind).Pairwise fun left right => left < right := by
  have hstrict : (vocabulary.spellingsOf kind).Pairwise fun left right =>
      left ≤ right ∧ left ≠ right :=
    pairwise_le_spellingsOf.and nodup_spellingsOf
  exact hstrict.imp fun hlt => Std.lt_of_le_of_ne hlt.1 hlt.2

/-- No spelling is listed with two kinds. -/
theorem disjoint_spellingsOf {left right : Kind} (hne : left ≠ right) :
    (vocabulary.spellingsOf left).Disjoint (vocabulary.spellingsOf right) := by
  intro spelling hleft hright
  have heq := vocabulary.eq_of_spelling_eq (mem_spellingsOf.mp hleft) (mem_spellingsOf.mp hright)
    rfl
  rw [Entry.mk.injEq] at heq
  exact hne heq.2

/-- The listings of all kinds one after another. -/
def listed (vocabulary : Vocabulary) : List String :=
  Kind.all.flatMap vocabulary.spellingsOf

theorem nodup_listed : vocabulary.listed.Nodup := by
  have hdisjoint : Kind.all.Pairwise fun left right =>
      (vocabulary.spellingsOf left).Disjoint (vocabulary.spellingsOf right) :=
    Kind.nodup_all.imp disjoint_spellingsOf
  exact List.nodup_flatMap.mpr ⟨fun _ _ => nodup_spellingsOf, hdisjoint⟩

theorem mem_listed {spelling : String} :
    spelling ∈ vocabulary.listed ↔ spelling ∈ vocabulary.entries.map Entry.spelling := by
  rw [listed, List.mem_flatMap, List.mem_map]
  constructor
  · rintro ⟨kind, -, hlisted⟩
    exact ⟨_, mem_spellingsOf.mp hlisted, rfl⟩
  · rintro ⟨entry, hentry, rfl⟩
    exact ⟨entry.kind, entry.kind.mem_all, mem_spellingsOf.mpr hentry⟩

/-- Neither the listings nor the entries repeat a spelling, so it is enough that they have the same
spellings. -/
theorem perm_listed : vocabulary.listed.Perm (vocabulary.entries.map Entry.spelling) :=
  (List.perm_ext_iff_of_nodup nodup_listed vocabulary.nodup_spellings).mpr fun _ => mem_listed

theorem sum_length_spellingsOf :
    (Kind.all.map fun kind => (vocabulary.spellingsOf kind).length).sum = vocabulary.size := by
  calc
    (Kind.all.map fun kind => (vocabulary.spellingsOf kind).length).sum =
        vocabulary.listed.length := List.length_flatMap.symm
    _ = (vocabulary.entries.map Entry.spelling).length := perm_listed.length_eq
    _ = vocabulary.size := List.length_map _

/-- The listings of the kinds part the spellings of an accepted list among them.  Each is strictly
ascending and has the spellings that are registered with its kind, no two have a spelling in common,
and together they have every spelling of the list as often as the list has it. -/
theorem spellingsOf_partition {entries : List Entry}
    (hbuild : ofEntries entries = .ok vocabulary) :
    (∀ kind, (vocabulary.spellingsOf kind).Pairwise fun left right => left < right) ∧
      (∀ kind spelling, spelling ∈ vocabulary.spellingsOf kind ↔ ⟨spelling, kind⟩ ∈ entries) ∧
      (∀ left right, left ≠ right →
        (vocabulary.spellingsOf left).Disjoint (vocabulary.spellingsOf right)) ∧
      (Kind.all.flatMap vocabulary.spellingsOf).Perm (entries.map Entry.spelling) ∧
      (Kind.all.map fun kind => (vocabulary.spellingsOf kind).length).sum = vocabulary.size := by
  rw [← entries_ofEntries hbuild]
  exact ⟨fun _ => pairwise_lt_spellingsOf, fun _ _ => mem_spellingsOf,
    fun _ _ => disjoint_spellingsOf, perm_listed, sum_length_spellingsOf⟩

/-- Two spellings of one kind are both listed with it, an operator that is a word is listed with no
other kind, and the listings have as many spellings as there are built-in entries. -/
theorem spellingsOf_partition_builtin :
    ofEntries builtinEntries = .ok builtin ∧
      "endif;" ∈ builtin.spellingsOf .endIfKeyword ∧ "endif" ∈ builtin.spellingsOf .endIfKeyword ∧
      "clone" ∉ builtin.spellingsOf .newOperator ∧
      (Kind.all.map fun kind => (builtin.spellingsOf kind).length).sum = 133 := by
  have hbuild : ofEntries builtinEntries = .ok builtin := ofEntries_entries builtin
  obtain ⟨-, hmem, hdisjoint, -, hsum⟩ := spellingsOf_partition hbuild
  have hclone : "clone" ∈ builtin.spellingsOf .unaryOperator :=
    (hmem .unaryOperator "clone").mpr (by decide +kernel)
  have hother := hdisjoint .unaryOperator .newOperator (by decide)
  exact ⟨hbuild, (hmem .endIfKeyword "endif;").mpr (by decide +kernel),
    (hmem .endIfKeyword "endif").mpr (by decide +kernel), fun hnew => hother hclone hnew, hsum⟩

end PhpLexicon.Vocabulary
