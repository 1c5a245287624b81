import Mathlib.Tactic.SplitIfs
import VolumeAttacher.Json.MergePatch

/-!
# Members of objects

What stands under a name, or at the end of a path of names, after members were set, erased or
patched. A patch changes what it names and nothing else.
-/

namespace VolumeAttacher
namespace Json

variable {name other : String} {value : Json} {members : List (String × Json)}

@[simp] theorem lookup_nil : lookup name [] = none := rfl

theorem lookup_cons (name other : String) (value : Json) (members : List (String × Json)) :
    lookup name ((other, value) :: members) =
      (lookup name members).or (if other = name then some value else none) := by
  rw [lookup]
  cases lookup name members <;> rfl

theorem lookup_eq_none_iff :
    lookup name members = none ↔ ∀ member ∈ members, member.1 ≠ name := by
  induction members with
  | nil => simp
  | cons first rest inductionHypothesis =>
    rw [lookup_cons, Option.or_eq_none_iff, inductionHypothesis, List.forall_mem_cons, and_comm]
    simp

@[simp] theorem lookup_cons_of_ne (differ : other ≠ name) :
    lookup name ((other, value) :: members) = lookup name members := by
  rw [lookup_cons, if_neg differ, Option.or_none]

@[simp] theorem lookup_eraseMember_self (name : String) (members : List (String × Json)) :
    lookup name (eraseMember name members) = none := by
  induction members with
  | nil => rfl
  | cons member rest inductionHypothesis =>
    obtain ⟨key, old⟩ := member
    unfold eraseMember at inductionHypothesis ⊢
    by_cases same : key = name
    · rw [List.filter_cons_of_neg (by simpa using same), inductionHypothesis]
    · rw [List.filter_cons_of_pos (by simpa using same), lookup_cons_of_ne same,
        inductionHypothesis]

@[simp] theorem lookup_eraseMember_of_ne
    (members : List (String × Json))
    (differ : name ≠ other) :
    lookup name (eraseMember other members) = lookup name members := by
  induction members with
  | nil => rfl
  | cons member rest inductionHypothesis =>
    obtain ⟨key, old⟩ := member
    unfold eraseMember at inductionHypothesis ⊢
    by_cases same : key = other
    · rw [List.filter_cons_of_neg (by simpa using same), inductionHypothesis,
        lookup_cons_of_ne (same ▸ differ.symm)]
    · rw [List.filter_cons_of_pos (by simpa using same), lookup_cons, inductionHypothesis,
        lookup_cons]

@[simp] theorem lookup_setMember_self
    (name : String)
    (value : Json)
    (members : List (String × Json)) :
    lookup name (setMember name value members) = some value := by
  induction members with
  | nil => simp [setMember, lookup_cons]
  | cons member rest inductionHypothesis =>
    obtain ⟨key, old⟩ := member
    unfold setMember
    split_ifs with same
    · simp [lookup_cons]
    · rw [lookup_cons_of_ne same, inductionHypothesis]

@[simp] theorem lookup_setMember_of_ne
    (value : Json)
    (members : List (String × Json))
    (differ : name ≠ other) :
    lookup name (setMember other value members) = lookup name members := by
  induction members with
  | nil => exact lookup_cons_of_ne differ.symm
  | cons member rest inductionHypothesis =>
    obtain ⟨key, old⟩ := member
    unfold setMember
    split_ifs with same
    · rw [lookup_cons_of_ne differ.symm, lookup_eraseMember_of_ne _ differ,
        lookup_cons_of_ne (same ▸ differ.symm)]
    · rw [lookup_cons, inductionHypothesis, lookup_cons]

/-- Setting a member leaves no other one of its name. -/
theorem eq_or_ne_of_mem_setMember
    {member : String × Json}
    (present : member ∈ setMember name value members) :
    member = (name, value) ∨ member ∈ members ∧ member.1 ≠ name := by
  induction members with
  | nil => exact .inl (List.mem_singleton.mp present)
  | cons first rest inductionHypothesis =>
    obtain ⟨key, old⟩ := first
    unfold setMember at present
    split_ifs at present with same
    · refine (List.mem_cons.mp present).imp_right fun kept => ?_
      obtain ⟨later, differs⟩ := List.mem_filter.mp kept
      exact ⟨List.mem_cons_of_mem _ later, of_decide_eq_true differs⟩
    · obtain rfl | later := List.mem_cons.mp present
      · exact .inr ⟨List.mem_cons_self, same⟩
      · exact (inductionHypothesis later).imp_right fun kept =>
          ⟨List.mem_cons_of_mem _ kept.1, kept.2⟩

theorem mem_of_mem_setMember
    {member : String × Json}
    (present : member ∈ setMember name value members) :
    member = (name, value) ∨ member ∈ members :=
  (eq_or_ne_of_mem_setMember present).imp_right And.left

theorem membersOf_member? (name : String) (value : Json) :
    ((value.member? name).getD .null).membersOf =
      ((lookup name value.membersOf).getD .null).membersOf := by
  cases value with
  | object members =>
    unfold member?
    dsimp only [membersOf]
    cases lookup name members with
    | none => rfl
    | some found => cases found <;> rfl
  | null | boolean | whole | decimal | text | array => rfl

/-! ## Paths -/

/-- What stands at the end of a path of names. -/
def at? : List String → Json → Option Json
  | [], value => some value
  | name :: rest, value => (lookup name value.membersOf).bind (at? rest)

@[simp] theorem at?_nil (value : Json) : at? [] value = some value := rfl

theorem at?_cons (name : String) (rest : List String) (value : Json) :
    at? (name :: rest) value = (lookup name value.membersOf).bind (at? rest) := rfl

/-! ## Patches -/

@[simp] theorem mergePatch_object (target : Json) (changes : List (String × Json)) :
    target.mergePatch (.object changes) = .object (mergeMembers target.membersOf changes) := rfl

@[simp] theorem mergeMembers_nil (members : List (String × Json)) :
    mergeMembers members [] = members := rfl

@[simp] theorem mergeMembers_null
    (name : String)
    (members changes : List (String × Json)) :
    mergeMembers members ((name, .null) :: changes) =
      mergeMembers (eraseMember name members) changes := rfl

theorem mergeMembers_cons
    {change : Json}
    (members changes : List (String × Json))
    (isThere : change ≠ .null) :
    mergeMembers members ((name, change) :: changes) =
      mergeMembers
        (setMember name (mergePatch ((lookup name members).getD .null) change) members)
        changes := by
  cases change with
  | null => exact absurd rfl isThere
  | boolean | whole | decimal | text | array | object => rfl

theorem mergeMembers_append (members first second : List (String × Json)) :
    mergeMembers members (first ++ second) = mergeMembers (mergeMembers members first) second := by
  induction first generalizing members with
  | nil => rfl
  | cons member rest inductionHypothesis =>
    obtain ⟨name, change⟩ := member
    rw [List.cons_append]
    by_cases erased : change = .null
    · subst erased
      rw [mergeMembers_null, inductionHypothesis, mergeMembers_null]
    · rw [mergeMembers_cons _ _ erased, inductionHypothesis, mergeMembers_cons _ _ erased]

/-- A member that no change names stays as it is. -/
theorem lookup_mergeMembers_of_unnamed
    {changes : List (String × Json)}
    (members : List (String × Json))
    (unnamed : ∀ change ∈ changes, name ≠ change.1) :
    lookup name (mergeMembers members changes) = lookup name members := by
  induction changes generalizing members with
  | nil => rfl
  | cons first rest inductionHypothesis =>
    obtain ⟨key, change⟩ := first
    have differ := unnamed (key, change) List.mem_cons_self
    have others := fun change later => unnamed change (List.mem_cons_of_mem _ later)
    by_cases erased : change = .null
    · subst erased
      rw [mergeMembers_null, inductionHypothesis _ others, lookup_eraseMember_of_ne _ differ]
    · rw [mergeMembers_cons _ _ erased, inductionHypothesis _ others,
        lookup_setMember_of_ne _ _ differ]

/-- A member becomes what the only change that names it makes of it. -/
theorem lookup_mergeMembers_of_named
    {change : Json}
    (members before after : List (String × Json))
    (isThere : change ≠ .null)
    (first : ∀ change ∈ before, name ≠ change.1)
    (last : ∀ change ∈ after, name ≠ change.1) :
    lookup name (mergeMembers members (before ++ (name, change) :: after)) =
      some (mergePatch ((lookup name members).getD .null) change) := by
  rw [mergeMembers_append, mergeMembers_cons _ _ isThere, lookup_mergeMembers_of_unnamed _ last,
    lookup_setMember_self, lookup_mergeMembers_of_unnamed _ first]

/-- A member is gone after a change that erases it, unless a later one names it. -/
theorem lookup_mergeMembers_of_erased
    (members before after : List (String × Json))
    (last : ∀ change ∈ after, name ≠ change.1) :
    lookup name (mergeMembers members (before ++ (name, .null) :: after)) = none := by
  rw [mergeMembers_append, mergeMembers_null, lookup_mergeMembers_of_unnamed _ last,
    lookup_eraseMember_self]

/-- A patch says something about what stands at a path, or about all that is there. -/
inductive Concerns : Json → List String → Prop
  | whole (patch : Json) : Concerns patch []
  | replaced {patch : Json} (path : List String) (isValue : patch.object? = none) :
    Concerns patch path
  | member {name : String} {changes : List (String × Json)} {change : Json} {path : List String}
      (present : (name, change) ∈ changes)
      (concerns : Concerns change path) :
    Concerns (.object changes) (name :: path)

theorem Concerns.of_object
    {changes : List (String × Json)}
    {path : List String}
    (concerns : Concerns (.object changes) path) :
    path = [] ∨ ∃ name change rest, path = name :: rest ∧ (name, change) ∈ changes ∧
      Concerns change rest := by
  cases concerns with
  | whole => exact .inl rfl
  | replaced path isValue => cases isValue
  | member present concerns => exact .inr ⟨_, _, _, rfl, present, concerns⟩

/-- A patch leaves alone whatever it says nothing about. -/
theorem at?_mergePatch
    {patch : Json}
    {path : List String}
    (silent : ¬ Concerns patch path)
    (target : Json) :
    at? path (target.mergePatch patch) = at? path target := by
  induction path generalizing patch target with
  | nil => exact absurd (.whole patch) silent
  | cons name rest inductionHypothesis =>
    cases patch with
    | object changes =>
      have quiet : ∀ change, (name, change) ∈ changes → ¬ Concerns change rest :=
        fun change present concerns => silent (.member present concerns)
      rw [mergePatch_object, at?_cons, at?_cons, membersOf]
      generalize target.membersOf = members
      clear silent
      -- The changes are made one after the other, each to what the ones before it left.
      induction changes generalizing members with
      | nil => rfl
      | cons first changes others =>
        obtain ⟨key, change⟩ := first
        have later := others fun change present => quiet change (List.mem_cons_of_mem _ present)
        by_cases same : key = name
        · subst same
          have quiet := quiet change List.mem_cons_self
          have isThere : change ≠ .null := by
            rintro rfl
            exact quiet (.replaced rest rfl)
          rw [mergeMembers_cons _ _ isThere, later, lookup_setMember_self, Option.bind_some,
            inductionHypothesis quiet]
          cases known : lookup key members with
          | some old => rfl
          | none =>
            cases rest with
            | nil => exact absurd (.whole change) quiet
            | cons => rfl
        · by_cases erased : change = .null
          · subst erased
            rw [mergeMembers_null, later, lookup_eraseMember_of_ne _ (Ne.symm same)]
          · rw [mergeMembers_cons _ _ erased, later, lookup_setMember_of_ne _ _ (Ne.symm same)]
    | null | boolean | whole | decimal | text | array =>
      exact absurd (.replaced _ rfl) silent

end Json

end VolumeAttacher
