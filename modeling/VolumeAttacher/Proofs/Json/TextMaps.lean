import Mathlib.Data.List.Induction
import VolumeAttacher.Proofs.Json.Members

/-!
# Maps from texts to texts

What stands under a key of a text map, and of the object that it was read from: the last entry of a
key wins in both.
-/

namespace VolumeAttacher
namespace Json

theorem TextMap.lookup_insert (key value : String) (map : TextMap) :
    (TextMap.insert key value map).lookup key = some value := by
  induction map with
  | nil => simp [insert]
  | cons entry rest inductionHypothesis =>
    obtain ⟨first, old⟩ := entry
    unfold insert
    split_ifs with same smaller
    · exact List.lookup_cons_self
    · exact List.lookup_cons_self
    · rw [List.lookup_cons, beq_false_of_ne same]
      exact inductionHypothesis

theorem TextMap.lookup_insert_of_ne
    {key other : String}
    (value : String)
    (map : TextMap)
    (differ : key ≠ other) :
    (TextMap.insert other value map).lookup key = map.lookup key := by
  induction map with
  | nil => rw [insert, List.lookup_cons, beq_false_of_ne differ]
  | cons entry rest inductionHypothesis =>
    obtain ⟨first, old⟩ := entry
    unfold insert
    split_ifs with same smaller
    · subst same
      rw [List.lookup_cons, List.lookup_cons, beq_false_of_ne differ]
    · rw [List.lookup_cons, beq_false_of_ne differ]
    · rw [List.lookup_cons, inductionHypothesis, List.lookup_cons]

/-- The last entry of a key wins. -/
theorem TextMap.lookup_ofList (key : String) (entries : List (String × String)) :
    (TextMap.ofList entries).lookup key = entries.reverse.lookup key := by
  induction entries using List.reverseRecOn with
  | nil => rfl
  | append_singleton entries entry inductionHypothesis =>
    obtain ⟨name, value⟩ := entry
    have appended : TextMap.ofList (entries ++ [(name, value)]) =
        TextMap.insert name value (TextMap.ofList entries) := List.foldl_append
    rw [appended, List.reverse_append, List.reverse_singleton, List.singleton_append,
      List.lookup_cons]
    by_cases same : key = name
    · subst same
      rw [lookup_insert, beq_self_eq_true]
    · rw [lookup_insert_of_ne _ _ same, beq_false_of_ne same, inductionHypothesis]

/-- The keys of a map stand in order, each once. -/
def TextMap.IsSorted (map : TextMap) : Prop :=
  map.Pairwise fun first second => first.1 < second.1

instance (map : TextMap) : Decidable map.IsSorted :=
  inferInstanceAs (Decidable (List.Pairwise _ _))

theorem TextMap.mem_of_mem_insert
    {key value : String}
    {map : TextMap}
    {entry : String × String}
    (present : entry ∈ TextMap.insert key value map) :
    entry = (key, value) ∨ entry ∈ map := by
  induction map with
  | nil => exact .inl (List.mem_singleton.mp present)
  | cons first rest inductionHypothesis =>
    unfold insert at present
    split_ifs at present with same smaller
    · exact (List.mem_cons.mp present).imp_right (List.mem_cons_of_mem _)
    · exact List.mem_cons.mp present
    · obtain rfl | present := List.mem_cons.mp present
      · exact .inr List.mem_cons_self
      · exact (inductionHypothesis present).imp_right (List.mem_cons_of_mem _)

theorem TextMap.IsSorted.insert
    {map : TextMap}
    (sorted : map.IsSorted)
    (key value : String) :
    (TextMap.insert key value map).IsSorted := by
  induction map with
  | nil => exact List.pairwise_singleton _ _
  | cons first rest inductionHypothesis =>
    obtain ⟨later, sorted⟩ := List.pairwise_cons.mp sorted
    unfold TextMap.insert
    split_ifs with same smaller
    · subst same
      exact List.pairwise_cons.mpr ⟨later, sorted⟩
    · refine List.pairwise_cons.mpr ⟨?_, List.pairwise_cons.mpr ⟨later, sorted⟩⟩
      intro entry present
      obtain rfl | present := List.mem_cons.mp present
      · exact smaller
      · exact String.lt_trans smaller (later entry present)
    · refine List.pairwise_cons.mpr ⟨?_, inductionHypothesis sorted⟩
      intro entry present
      obtain rfl | present := mem_of_mem_insert present
      · exact Std.lt_of_le_of_ne (String.not_lt.mp smaller) (Ne.symm same)
      · exact later entry present

/-- The map of any entries is sorted. -/
theorem TextMap.isSorted_ofList (entries : List (String × String)) :
    (TextMap.ofList entries).IsSorted := by
  induction entries using List.reverseRecOn with
  | nil => exact List.Pairwise.nil
  | append_singleton entries entry inductionHypothesis =>
    rw [ofList, List.foldl_append]
    exact inductionHypothesis.insert entry.1 entry.2

theorem TextMap.insert_perm
    {key : String}
    (value : String)
    {map : TextMap}
    (fresh : ∀ entry ∈ map, entry.1 ≠ key) :
    (TextMap.insert key value map).Perm ((key, value) :: map) := by
  induction map with
  | nil => exact List.Perm.refl _
  | cons first rest inductionHypothesis =>
    rw [List.forall_mem_cons] at fresh
    unfold insert
    rw [if_neg (Ne.symm fresh.1)]
    split_ifs with smaller
    · exact List.Perm.refl _
    · exact ((inductionHypothesis fresh.2).cons first).trans (List.Perm.swap _ _ _)

/-- Entries of different keys are all kept. -/
theorem TextMap.ofList_perm
    {entries : List (String × String)}
    (differ : entries.Pairwise fun first second => first.1 ≠ second.1) :
    (TextMap.ofList entries).Perm entries := by
  induction entries using List.reverseRecOn with
  | nil => exact List.Perm.refl _
  | append_singleton entries entry inductionHypothesis =>
    obtain ⟨differ, -, fresh⟩ := List.pairwise_append.mp differ
    have kept := inductionHypothesis differ
    rw [ofList, List.foldl_append]
    refine (insert_perm entry.2 fun other present => ?_).trans
      ((kept.cons entry).trans (List.perm_append_singleton entry entries).symm)
    exact fresh other (kept.mem_iff.mp present) entry List.mem_cons_self

/-- A sorted map is made again from its entries in any order. -/
theorem TextMap.ofList_eq_of_perm
    {entries : List (String × String)}
    {map : TextMap}
    (sorted : map.IsSorted)
    (same : entries.Perm map) :
    TextMap.ofList entries = map := by
  have differ : map.Pairwise fun first second => first.1 ≠ second.1 :=
    sorted.imp fun smaller => Std.ne_of_lt smaller
  have kept := ofList_perm (same.symm.pairwise differ Ne.symm)
  refine List.Perm.eq_of_pairwise ?_ (isSorted_ofList entries) sorted (kept.trans same)
  exact fun first second _ _ smaller greater => (String.lt_asymm smaller greater).elim

theorem TextMap.IsSorted.lookup_tail
    {entry : String × String}
    {map : TextMap}
    (sorted : TextMap.IsSorted (entry :: map)) :
    map.lookup entry.1 = none := by
  rw [List.lookup_eq_none_iff]
  intro other present
  exact bne_iff_ne.mpr (Std.ne_of_lt ((List.pairwise_cons.mp sorted).1 other present))

theorem TextMap.IsSorted.mem_iff_lookup
    {map : TextMap}
    (sorted : map.IsSorted)
    (entry : String × String) :
    entry ∈ map ↔ map.lookup entry.1 = some entry.2 := by
  induction map with
  | nil => simp
  | cons first rest inductionHypothesis =>
    have unique := sorted.lookup_tail
    rw [List.mem_cons, inductionHypothesis (List.pairwise_cons.mp sorted).2]
    obtain ⟨key, value⟩ := entry
    obtain ⟨name, old⟩ := first
    rw [List.lookup_cons]
    by_cases same : key = name
    · subst same
      simp [unique, eq_comm]
    · simp [beq_false_of_ne same, same]

/-- A sorted map is told by what stands under its keys. -/
theorem TextMap.IsSorted.eq_of_lookup_eq
    {first second : TextMap}
    (sorted : first.IsSorted)
    (sorted' : second.IsSorted)
    (same : ∀ key, first.lookup key = second.lookup key) :
    first = second := by
  have nodup {map : TextMap} (sorted : map.IsSorted) : map.Nodup :=
    sorted.imp fun smaller equal => Std.ne_of_lt smaller (congrArg Prod.fst equal)
  have perm : first.Perm second := by
    rw [List.perm_ext_iff_of_nodup (nodup sorted) (nodup sorted')]
    intro entry
    rw [sorted.mem_iff_lookup, sorted'.mem_iff_lookup, same]
  refine List.Perm.eq_of_pairwise ?_ sorted sorted' perm
  exact fun first second _ _ smaller greater => (String.lt_asymm smaller greater).elim

theorem TextMap.mem_keys_iff {key : String} {map : TextMap} :
    key ∈ map.map Prod.fst ↔ map.lookup key ≠ none := by
  rw [ne_eq, List.lookup_eq_none_iff, List.mem_map]
  constructor
  · rintro ⟨entry, present, rfl⟩ unnamed
    exact bne_iff_ne.mp (unnamed entry present) rfl
  · intro named
    by_contra unnamed
    exact named fun entry present => bne_iff_ne.mpr fun same => unnamed ⟨entry, present, same.symm⟩

theorem text?_eq_some_iff {value : Json} {text : String} :
    value.text? = some text ↔ value = .text text := by
  cases value <;> simp [text?]

theorem mapM_textEntry?_cons
    (name : String)
    (value : Json)
    (members : List (String × Json)) :
    ((name, value) :: members).mapM textEntry? =
      value.text?.bind fun text => (members.mapM textEntry?).map ((name, text) :: ·) := by
  rw [List.mapM_cons, textEntry?]
  dsimp only [Option.bind_eq_bind, Option.pure_def]
  cases value.text? with
  | none => rfl
  | some text => cases members.mapM textEntry? <;> rfl

/-- An object has under a key what its text map has there. -/
theorem lookup_of_textMap?
    {members : List (String × Json)}
    {map : TextMap}
    (read : textMap? (.object members) = some map)
    (key : String) :
    lookup key members = (map.lookup key).map .text := by
  obtain ⟨entries, found, rfl⟩ := Option.map_eq_some_iff.mp read
  rw [TextMap.lookup_ofList]
  clear read
  induction members generalizing entries with
  | nil =>
    cases found
    rfl
  | cons member members inductionHypothesis =>
    obtain ⟨name, value⟩ := member
    rw [mapM_textEntry?_cons, Option.bind_eq_some_iff] at found
    obtain ⟨text, isText, found⟩ := found
    obtain ⟨others, rest, rfl⟩ := Option.map_eq_some_iff.mp found
    obtain rfl := text?_eq_some_iff.mp isText
    rw [lookup_cons, inductionHypothesis others rest, List.reverse_cons, List.lookup_append,
      List.lookup_cons, List.lookup_nil]
    cases others.reverse.lookup key with
    | some later => rfl
    | none =>
      by_cases same : name = key
      · subst same
        simp
      · rw [if_neg same, beq_false_of_ne (Ne.symm same)]
        rfl

/-- An object is a text map if all its members are texts. -/
theorem exists_textMap?_iff {members : List (String × Json)} :
    (∃ map, textMap? (.object members) = some map) ↔
      ∀ member ∈ members, ∃ text, member.2 = .text text := by
  unfold textMap?
  simp only [Option.map_eq_some_iff, ↓existsAndEq, and_true]
  induction members with
  | nil => exact ⟨fun _ => nofun, fun _ => ⟨[], rfl⟩⟩
  | cons member members inductionHypothesis =>
    obtain ⟨name, value⟩ := member
    rw [List.forall_mem_cons, mapM_textEntry?_cons]
    refine Iff.trans ?_ (and_congr_right fun _ => inductionHypothesis)
    simp [Option.bind_eq_some_iff, text?_eq_some_iff]

/-- A text map that an entry is set in is a text map that has the entry. -/
theorem exists_textMap?_setMember
    {members : List (String × Json)}
    (key value : String)
    (texts : ∀ member ∈ members, ∃ text, member.2 = .text text) :
    ∃ map, textMap? (.object (setMember key (.text value) members)) = some map ∧
      map.lookup key = some value := by
  obtain ⟨map, read⟩ :
      ∃ map, textMap? (.object (setMember key (.text value) members)) = some map := by
    rw [exists_textMap?_iff]
    intro member present
    obtain rfl | present := mem_of_mem_setMember present
    · exact ⟨value, rfl⟩
    · exact texts member present
  refine ⟨map, read, ?_⟩
  have found := lookup_of_textMap? read key
  rw [lookup_setMember_self] at found
  obtain ⟨text, isThere, same⟩ := Option.map_eq_some_iff.mp found.symm
  rw [isThere, Json.text.inj same]

theorem isSorted_of_textMap?
    {value : Json}
    {map : TextMap}
    (read : value.textMap? = some map) :
    map.IsSorted := by
  cases value with
  | object members =>
    obtain ⟨entries, -, rfl⟩ := Option.map_eq_some_iff.mp read
    exact TextMap.isSorted_ofList entries
  | null | boolean | whole | decimal | text | array => cases read

/-! ## Merging a map -/

/-- The members that a text map is made of. -/
def textMembers (map : TextMap) : List (String × Json) :=
  map.map fun entry => (entry.1, .text entry.2)

@[simp] theorem mergeMembers_textMembers_cons
    (key value : String)
    (map : TextMap)
    (members : List (String × Json)) :
    mergeMembers members (textMembers ((key, value) :: map)) =
      mergeMembers (setMember key (.text value) members) (textMembers map) := rfl

theorem mem_mergeMembers_textMembers
    {map : TextMap}
    {member : String × Json}
    (present : member ∈ mergeMembers members (textMembers map)) :
    (∃ entry ∈ map, member = (entry.1, .text entry.2)) ∨
      member ∈ members ∧ ∀ entry ∈ map, member.1 ≠ entry.1 := by
  induction map generalizing members with
  | nil => exact .inr ⟨present, nofun⟩
  | cons entry rest inductionHypothesis =>
    obtain ⟨entry, later, rfl⟩ | ⟨earlier, unnamed⟩ := inductionHypothesis present
    · exact .inl ⟨entry, List.mem_cons_of_mem _ later, rfl⟩
    · obtain rfl | ⟨old, differs⟩ := eq_or_ne_of_mem_setMember earlier
      · exact .inl ⟨entry, List.mem_cons_self, rfl⟩
      · exact .inr ⟨old, List.forall_mem_cons.mpr ⟨differs, unnamed⟩⟩

/-- A map that is merged into members puts its entries there and leaves the other members. -/
theorem lookup_mergeMembers_textMembers
    {map : TextMap}
    (sorted : map.IsSorted)
    (members : List (String × Json))
    (key : String) :
    lookup key (mergeMembers members (textMembers map)) =
      ((map.lookup key).map .text).or (lookup key members) := by
  induction map generalizing members with
  | nil => rfl
  | cons entry rest inductionHypothesis =>
    obtain ⟨first, value⟩ := entry
    have unique := sorted.lookup_tail
    rw [mergeMembers_textMembers_cons, inductionHypothesis (List.pairwise_cons.mp sorted).2,
      List.lookup_cons]
    by_cases same : key = first
    · subst same
      rw [unique, lookup_setMember_self, beq_self_eq_true]
      rfl
    · rw [lookup_setMember_of_ne _ _ same, beq_false_of_ne same]

/-- A map that is merged into an object is what the object holds then exactly if it names every
key that was there. -/
theorem textMap?_mergeMembers_eq_some_iff
    {map : TextMap}
    (sorted : map.IsSorted)
    (members : List (String × Json)) :
    textMap? (.object (mergeMembers members (textMembers map))) = some map ↔
      ∀ member ∈ members, member.1 ∈ map.map Prod.fst := by
  have merged := lookup_mergeMembers_textMembers sorted members
  constructor
  · intro read member present
    rw [TextMap.mem_keys_iff]
    intro unnamed
    have found := lookup_of_textMap? read member.1
    rw [merged, unnamed, Option.map_none, Option.none_or] at found
    exact lookup_eq_none_iff.mp found member present rfl
  · intro named
    obtain ⟨read, found⟩ :
        ∃ read, textMap? (.object (mergeMembers members (textMembers map))) = some read := by
      rw [exists_textMap?_iff]
      intro member present
      obtain ⟨entry, -, rfl⟩ | ⟨old, unnamed⟩ := mem_mergeMembers_textMembers present
      · exact ⟨entry.2, rfl⟩
      · obtain ⟨entry, listed, same⟩ := List.mem_map.mp (named member old)
        exact absurd same.symm (unnamed entry listed)
    rw [found]
    refine congrArg some ((isSorted_of_textMap? found).eq_of_lookup_eq sorted fun key => ?_)
    have there := lookup_of_textMap? found key
    rw [merged] at there
    apply Option.map_injective fun _ _ => Json.text.inj
    rw [← there]
    cases listed : map.lookup key with
    | some value => rfl
    | none =>
      rw [Option.map_none, Option.none_or, lookup_eq_none_iff]
      rintro member present rfl
      exact TextMap.mem_keys_iff.mp (named member present) listed

end Json

end VolumeAttacher
