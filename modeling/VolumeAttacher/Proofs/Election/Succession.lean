import VolumeAttacher.Proofs.Election.Entitlement

/-!
# Successions of records

The records that a lock held, one made from the other: a candidate goes on with its own, takes over
one of somebody else, or gives up its own. Whatever the order, the last one counts how often the
lock changed hands, and says when its holder got it.
-/

namespace VolumeAttacher

/-- The greatest number of changes of hands that a record can hold. -/
def Record.greatestTransitions : Nat := 2147483647

/-! ## Changes of hands -/

namespace Posting

/-- The record is the first one of its holder, after another one. -/
def takesOver (later prior : Posting) : Bool :=
  later.record.isHeld && later.record.holder != prior.record.holder

/-- How often the lock changed hands after it was created, the present record first. -/
def takeovers : List Posting → Nat
  | later :: prior :: earlier =>
    takeovers (prior :: earlier) + (later.takesOver prior).toNat
  | _ => 0

/-- The record with which the present holder got the lock. -/
def installing? : List Posting → Option Posting
  | later :: prior :: earlier =>
    if later.record.holder = prior.record.holder then installing? (prior :: earlier)
    else some later
  | [first] => some first
  | [] => none

@[simp] theorem takeovers_singleton (posting : Posting) : takeovers [posting] = 0 := rfl

@[simp] theorem takeovers_cons_cons (later prior : Posting) (earlier : List Posting) :
    takeovers (later :: prior :: earlier) =
      takeovers (prior :: earlier) + (later.takesOver prior).toNat := rfl

theorem installing?_of_holder_eq
    {later prior : Posting}
    (same : later.record.holder = prior.record.holder)
    (earlier : List Posting) :
    installing? (later :: prior :: earlier) = installing? (prior :: earlier) := by
  rw [installing?, if_pos same]

theorem installing?_of_holder_ne
    {later prior : Posting}
    (other : later.record.holder ≠ prior.record.holder)
    (earlier : List Posting) :
    installing? (later :: prior :: earlier) = some later := by
  rw [installing?, if_neg other]

theorem takesOver_of_holder_eq
    {later prior : Posting}
    (same : later.record.holder = prior.record.holder) :
    later.takesOver prior = false := by
  simp [takesOver, same]

theorem takesOver_of_vacant
    {later : Posting}
    (vacant : later.record.holder = "")
    (prior : Posting) :
    later.takesOver prior = false := by
  simp [takesOver, Record.isHeld, vacant]

theorem takesOver_of_holder_ne
    {later prior : Posting}
    (held : later.record.holder ≠ "")
    (other : later.record.holder ≠ prior.record.holder) :
    later.takesOver prior = true := by
  simp [takesOver, Record.isHeld, held, other]

end Posting

namespace Attempt

variable (candidate : Candidate) (began : Timestamp) {current : Record}

@[simp] theorem succeed_holder (current : Record) :
    (succeed candidate began current).holder = candidate.identity :=
  (succeed_isClaimOf candidate began current).holder

theorem succeed_of_own (own : current.holder = candidate.identity) :
    (succeed candidate began current).acquired = current.acquired ∧
      (succeed candidate began current).transitions = current.transitions := by
  simp [succeed, own]

theorem succeed_of_foreign (foreign : current.holder ≠ candidate.identity) :
    (succeed candidate began current).acquired = some began ∧
      (succeed candidate began current).transitions = current.transitions + 1 := by
  simp [succeed, foreign, claim]

end Attempt

/-! ## Lineages -/

variable {ι : Type}

/-- One record comes from the one before. The claims of candidates were asked for in attempts that
began at known times. -/
inductive Succession
    (electorate : Electorate ι)
    (asked : ι → Record → Timestamp → Prop)
    (prior posting : Posting) : Prop
  /-- The holder goes on. -/
  | renewed
      (same : posting.record.holder = prior.record.holder)
      (acquired : posting.record.acquired = prior.record.acquired)
      (transitions : posting.record.transitions = prior.record.transitions)
  /-- A candidate takes over a record that is not its own. -/
  | taken (index : ι) (began : Timestamp)
      (holder : posting.record.holder = electorate.identity index)
      (foreign : prior.record.holder ≠ electorate.identity index)
      (asks : asked index posting.record began)
      (acquired : posting.record.acquired = some began)
      (transitions : posting.record.transitions = prior.record.transitions + 1)
  /-- The holder gives up the lock. -/
  | vacated
      (vacant : posting.record.holder = "")
      (transitions : posting.record.transitions = prior.record.transitions)

/-- Each record that the lock held comes from the one before, and the first one was created by a
candidate. -/
inductive Lineage
    (electorate : Electorate ι)
    (asked : ι → Record → Timestamp → Prop) : List Posting → Prop
  | unheld : Lineage electorate asked []
  | created {posting : Posting} (index : ι) (began : Timestamp)
      (holder : posting.record.holder = electorate.identity index)
      (asks : asked index posting.record began)
      (acquired : posting.record.acquired = some began)
      (transitions : posting.record.transitions = 0) :
    Lineage electorate asked [posting]
  | followed {posting prior : Posting} {earlier : List Posting}
      (succession : Succession electorate asked prior posting)
      (lineage : Lineage electorate asked (prior :: earlier)) :
    Lineage electorate asked (posting :: prior :: earlier)

namespace Succession

variable {electorate : Electorate ι} {asked asked' : ι → Record → Timestamp → Prop}
  {prior posting : Posting}

theorem mono
    (succession : Succession electorate asked prior posting)
    (more : ∀ index record began, asked index record began → asked' index record began) :
    Succession electorate asked' prior posting := by
  cases succession with
  | renewed same acquired transitions => exact .renewed same acquired transitions
  | taken index began holder foreign asks acquired transitions =>
    exact .taken index began holder foreign (more _ _ _ asks) acquired transitions
  | vacated vacant transitions => exact .vacated vacant transitions

/-- A candidate that succeeds a record goes on with it or takes it over. -/
theorem of_succeed
    {index : ι}
    {began : Timestamp}
    (record : posting.record =
      Attempt.succeed (electorate.candidate index) began prior.record)
    (asks : asked index posting.record began) :
    Succession electorate asked prior posting := by
  have holder : posting.record.holder = electorate.identity index := by
    rw [record, Attempt.succeed_holder]
    rfl
  by_cases own : prior.record.holder = electorate.identity index
  · obtain ⟨acquired, transitions⟩ :=
      Attempt.succeed_of_own (electorate.candidate index) began own
    rw [← record] at acquired transitions
    exact .renewed (holder.trans own.symm) acquired transitions
  · obtain ⟨acquired, transitions⟩ :=
      Attempt.succeed_of_foreign (electorate.candidate index) began own
    rw [← record] at acquired transitions
    exact .taken index began holder own asks acquired transitions

/-- The number of changes grows exactly with a record that takes over another one. -/
theorem transitions
    (succession : Succession electorate asked prior posting) :
    posting.record.transitions =
      prior.record.transitions + Int32.ofNat (posting.takesOver prior).toNat := by
  cases succession with
  | renewed same _ transitions =>
    rw [Posting.takesOver_of_holder_eq same, transitions]
    simp
  | taken index began holder foreign _ _ transitions =>
    have held : posting.record.holder ≠ "" := holder ▸ electorate.named index
    rw [Posting.takesOver_of_holder_ne held (holder ▸ foreign.symm), transitions]
    rfl
  | vacated vacant transitions =>
    rw [Posting.takesOver_of_vacant vacant, transitions]
    simp

theorem transitions_of_not_takesOver
    (succession : Succession electorate asked prior posting)
    (kept : posting.takesOver prior = false) :
    posting.record.transitions = prior.record.transitions := by
  rw [succession.transitions, kept]
  simp

/-- A record that goes on keeps the time at which the lock was got. -/
theorem acquired_of_holder_eq
    (succession : Succession electorate asked prior posting)
    (same : posting.record.holder = prior.record.holder)
    (held : posting.record.isHeld) :
    posting.record.acquired = prior.record.acquired := by
  cases succession with
  | renewed _ acquired => exact acquired
  | taken index began holder foreign => exact absurd (same.symm.trans holder) foreign
  | vacated vacant => simp [Record.isHeld, vacant] at held

end Succession

namespace Lineage

variable {electorate : Electorate ι} {asked asked' : ι → Record → Timestamp → Prop}
  {postings earlier : List Posting} {posting prior : Posting}

theorem mono
    (lineage : Lineage electorate asked postings)
    (more : ∀ index record began, asked index record began → asked' index record began) :
    Lineage electorate asked' postings := by
  induction lineage with
  | unheld => exact .unheld
  | created index began holder asks acquired transitions =>
    exact .created index began holder (more _ _ _ asks) acquired transitions
  | followed succession _ lineage => exact .followed (succession.mono more) lineage

/-- Any two records in a row are one succession. -/
theorem succession_of_suffix
    (lineage : Lineage electorate asked postings)
    (suffix : posting :: prior :: earlier <:+ postings) :
    Succession electorate asked prior posting := by
  induction lineage with
  | unheld => simp at suffix
  | created => simpa using suffix.length_le
  | followed succession _ hypothesis =>
    obtain same | suffix := List.suffix_cons_iff.mp suffix
    · obtain ⟨rfl, rfl, rfl⟩ := by simpa using same
      exact succession
    · exact hypothesis suffix

/-- The present record counts the changes of hands. -/
theorem transitions_eq
    (lineage : Lineage electorate asked (posting :: earlier))
    (few : Posting.takeovers (posting :: earlier) < Record.greatestTransitions) :
    posting.record.transitions.toInt = Posting.takeovers (posting :: earlier) := by
  induction earlier generalizing posting with
  | nil =>
    cases lineage with
    | created index began holder asks acquired transitions => simp [transitions]
  | cons prior earlier hypothesis =>
    cases lineage with
    | followed succession lineage =>
      unfold Record.greatestTransitions at few hypothesis
      rw [Posting.takeovers_cons_cons] at few ⊢
      have counted := hypothesis lineage (by omega)
      have atMost := Bool.toNat_le (posting.takesOver prior)
      have step : (Int32.ofNat (posting.takesOver prior).toNat).toInt =
          (posting.takesOver prior).toNat := Int32.toInt_ofNat_of_lt (by omega)
      rw [succession.transitions, Int32.toInt_add, counted, step]
      push_cast
      exact Int.bmod_eq_of_le (by omega) (by omega)

/-- A record that is held says when the attempt began with which its holder got the lock. -/
theorem exists_installing
    (lineage : Lineage electorate asked (posting :: earlier))
    (held : posting.record.isHeld) :
    ∃ first index began, Posting.installing? (posting :: earlier) = some first ∧
      posting.record.holder = electorate.identity index ∧ asked index first.record began ∧
      posting.record.acquired = some began := by
  induction earlier generalizing posting with
  | nil =>
    cases lineage with
    | created index began holder asks acquired =>
      exact ⟨posting, index, began, rfl, holder, asks, acquired⟩
  | cons prior earlier hypothesis =>
    cases lineage with
    | followed succession lineage =>
      cases succession with
      | renewed same acquired =>
        rw [Record.isHeld, same] at held
        rw [Posting.installing?_of_holder_eq same, same, acquired]
        exact hypothesis lineage held
      | taken index began holder foreign asks acquired =>
        rw [Posting.installing?_of_holder_ne (holder ▸ foreign.symm)]
        exact ⟨posting, index, began, rfl, holder, asks, acquired⟩
      | vacated vacant => simp [Record.isHeld, vacant] at held

end Lineage

end VolumeAttacher
