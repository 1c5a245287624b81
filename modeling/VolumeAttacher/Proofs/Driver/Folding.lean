import Mathlib.Data.String.Basic
import VolumeAttacher.Driver.Name
import VolumeAttacher.Election.Label

/-!
# Names that are made of driver names

The lock and the finalizer of a driver are named by its folded name. Folding keeps less than the
driver's name, so that two drivers may share both: exactly if their names agree once they are in
lower case and have a hyphen in place of every foreign character, or if one of them, which then ends
in a hyphen, is closed by the very `x` that the other one ends in. A folded name is as long in
octets as in characters, and the lock can have it unless it is too long.
-/

namespace VolumeAttacher

/-! ## Characters of names -/

namespace Label

variable {dots : Bool} {character : Char}

theorem isInnerCharacter_iff :
    isInnerCharacter dots character = true ↔
      isEndCharacter character = true ∨ character = '-' ∨ dots = true ∧ character = '.' := by
  simp [isInnerCharacter, or_assoc]

/-- A character that may stand at the end of a name may stand inside it. -/
theorem isInnerCharacter_of_isEndCharacter
    (outer : isEndCharacter character = true) :
    isInnerCharacter dots character = true :=
  isInnerCharacter_iff.mpr (.inl outer)

/-- Without dots there are fewer names. -/
theorem isInnerCharacter_mono
    (inner : isInnerCharacter false character = true) :
    isInnerCharacter dots character = true := by
  obtain outer | hyphen | ⟨⟨⟩, -⟩ := isInnerCharacter_iff.mp inner
  · exact isInnerCharacter_of_isEndCharacter outer
  · exact isInnerCharacter_iff.mpr (.inr (.inl hyphen))

theorem not_isUpper_of_isEndCharacter
    (outer : isEndCharacter character = true) :
    ¬ character.isUpper = true := by
  intro upper
  obtain ⟨fromA, toZ⟩ := of_decide_eq_true upper
  obtain lower | digit := Bool.or_eq_true_iff.mp outer
  · have fromLower : 'a'.val ≤ character.val := of_decide_eq_true (Bool.and_eq_true_iff.mp lower).1
    exact absurd (UInt32.le_trans fromLower toZ) (by decide)
  · have toNine : character.val ≤ '9'.val := of_decide_eq_true (Bool.and_eq_true_iff.mp digit).2
    exact absurd (UInt32.le_trans fromA toNine) (by decide)

theorem toLower_of_not_isUpper
    (lacks : ¬ character.isUpper = true) :
    character.toLower = character :=
  dif_neg fun capital => lacks (decide_eq_true capital)

theorem isLower_toLower
    (upper : character.isUpper = true) :
    character.toLower.isLower = true := by
  have capital : 'A'.val ≤ character.val ∧ character.val ≤ 'Z'.val := of_decide_eq_true upper
  unfold Char.toLower
  rw [dif_pos capital]
  refine Bool.and_eq_true_iff.mpr ⟨decide_eq_true ?_, decide_eq_true ?_⟩
  all_goals
    simp only [UInt32.le_iff_toNat_le, UInt32.toNat_add, ge_iff_le, Char.reduceVal,
      UInt32.reduceSub, UInt32.reduceToNat] at capital ⊢
    omega

/-- No character of a name is in upper case. -/
theorem toLower_of_isInnerCharacter
    (inner : isInnerCharacter dots character = true) :
    character.toLower = character := by
  obtain outer | rfl | ⟨-, rfl⟩ := isInnerCharacter_iff.mp inner
  · exact toLower_of_not_isUpper (not_isUpper_of_isEndCharacter outer)
  · rfl
  · rfl

/-- The characters of names take one octet each. -/
theorem utf8Size_of_isInnerCharacter
    (inner : isInnerCharacter dots character = true) :
    character.utf8Size = 1 := by
  have small : character.val ≤ 127 := by
    obtain outer | rfl | ⟨-, rfl⟩ := isInnerCharacter_iff.mp inner
    · obtain lower | digit := Bool.or_eq_true_iff.mp outer
      · have toZ := of_decide_eq_true (Bool.and_eq_true_iff.mp lower).2
        exact UInt32.le_trans toZ (by decide)
      · have toNine := of_decide_eq_true (Bool.and_eq_true_iff.mp digit).2
        exact UInt32.le_trans toNine (by decide)
    · decide
    · decide
  exact if_pos small

/-- A text of such characters has as many octets as characters. -/
theorem utf8ByteSize_of_inner
    {characters : List Char}
    (inner : ∀ character ∈ characters, isInnerCharacter dots character = true) :
    (String.ofList characters).utf8ByteSize = characters.length := by
  rw [String.utf8ByteSize_ofList]
  induction characters with
  | nil => rfl
  | cons character rest inductionHypothesis =>
    obtain ⟨head, tail⟩ := List.forall_mem_cons.mp inner
    rw [String.utf8Len_cons, inductionHypothesis tail, utf8Size_of_isInnerCharacter head,
      List.length_cons]

end Label

namespace DriverName

/-- A character in lower case, or a hyphen if it cannot stand inside a name without dots. -/
def plainCharacter (character : Char) : Char :=
  if Label.isInnerCharacter false character.toLower then character.toLower else '-'

/-- The characters of a text in lower case, with a hyphen in place of each foreign one. -/
def skeleton (text : String) : List Char :=
  text.toList.map plainCharacter

/-- Two lists of characters are the same, or one of them ends in a hyphen and the other one is the
same with an `x` after it. -/
def Coincide (left right : List Char) : Prop :=
  left = right ∨ left.getLast? = some '-' ∧ right = left ++ ['x'] ∨
    right.getLast? = some '-' ∧ left = right ++ ['x']

theorem isInnerCharacter_plainCharacter (character : Char) :
    Label.isInnerCharacter false (plainCharacter character) = true := by
  unfold plainCharacter
  split
  · assumption
  · rfl

theorem plainCharacter_of_isInnerCharacter
    {character : Char}
    (inner : Label.isInnerCharacter false character = true) :
    plainCharacter character = character := by
  rw [plainCharacter, Label.toLower_of_isInnerCharacter inner, if_pos inner]

/-- Letters in lower case are letters, and nothing else becomes one. -/
theorem isEndCharacter_toLower (character : Char) :
    Label.isEndCharacter character.toLower = character.isAlphanum := by
  unfold Label.isEndCharacter Char.isAlphanum Char.isAlpha
  by_cases upper : character.isUpper = true
  · simp [Label.isLower_toLower upper, upper]
  · simp [Label.toLower_of_not_isUpper upper, upper]

theorem toLower_eq_hyphen_iff (character : Char) :
    character.toLower = '-' ↔ character = '-' := by
  by_cases upper : character.isUpper = true
  · have lower := Label.isLower_toLower upper
    constructor <;> intro hyphen
    · simp [hyphen] at lower
    · simp [hyphen] at upper
  · rw [Label.toLower_of_not_isUpper upper]

/-- Folding makes a character plain. -/
theorem foldCharacter_eq (character : Char) :
    foldCharacter character = plainCharacter character := by
  simp [foldCharacter, plainCharacter, Label.isInnerCharacter, isEndCharacter_toLower,
    toLower_eq_hyphen_iff]

/-! ## Lists of characters -/

section Lists

variable (characters : List Char)

theorem getLast?_closeHyphen : (closeHyphen characters).getLast? ≠ some '-' := by
  unfold closeHyphen
  split
  · simp
  · assumption

theorem closeHyphen_of_open
    {characters : List Char}
    (ends : characters.getLast? = some '-') :
    closeHyphen characters = characters ++ ['x'] :=
  if_pos ends

theorem closeHyphen_of_closed
    {characters : List Char}
    (closed : characters.getLast? ≠ some '-') :
    closeHyphen characters = characters :=
  if_neg closed

/-- What stands before the last characters does not matter. -/
theorem closeHyphen_append
    {rest : List Char}
    (inhabited : rest ≠ []) :
    closeHyphen (characters ++ rest) = characters ++ closeHyphen rest := by
  have same : (characters ++ rest).getLast? = rest.getLast? :=
    List.getLast?_append_of_ne_nil characters inhabited
  unfold closeHyphen
  rw [same]
  split <;> simp

theorem length_closeHyphen_le : (closeHyphen characters).length ≤ characters.length + 1 := by
  unfold closeHyphen
  split <;> simp

theorem isInnerCharacter_of_mem_closeHyphen
    {character : Char}
    {characters : List Char}
    (inner : ∀ character ∈ characters, Label.isInnerCharacter false character = true)
    (present : character ∈ closeHyphen characters) :
    Label.isInnerCharacter false character = true := by
  unfold closeHyphen at present
  split at present
  · obtain old | ⟨rfl⟩ := by simpa using present
    · exact inner character old
    · rfl
  · exact inner character present

/-- Two lists are closed to the same one exactly if they coincide. -/
theorem closeHyphen_eq_iff {left right : List Char} :
    closeHyphen left = closeHyphen right ↔ Coincide left right := by
  constructor
  · intro same
    by_cases openLeft : left.getLast? = some '-'
    · rw [closeHyphen_of_open openLeft] at same
      by_cases openRight : right.getLast? = some '-'
      · rw [closeHyphen_of_open openRight] at same
        exact .inl (List.append_cancel_right same)
      · rw [closeHyphen_of_closed openRight] at same
        exact .inr (.inl ⟨openLeft, same.symm⟩)
    · rw [closeHyphen_of_closed openLeft] at same
      by_cases openRight : right.getLast? = some '-'
      · rw [closeHyphen_of_open openRight] at same
        exact .inr (.inr ⟨openRight, same⟩)
      · rw [closeHyphen_of_closed openRight] at same
        exact .inl same
  · rintro (rfl | ⟨openLeft, rfl⟩ | ⟨openRight, rfl⟩)
    · rfl
    · rw [closeHyphen_of_open openLeft, closeHyphen_of_closed (by simp)]
    · rw [closeHyphen_of_open openRight, closeHyphen_of_closed (by simp)]

end Lists

/-! ## Folded texts -/

variable (text : String)

theorem toList_fold : (fold text).toList = closeHyphen (skeleton text) := by
  rw [fold, String.toList_ofList, skeleton, funext foldCharacter_eq]

theorem fold_eq_iff (left right : String) :
    fold left = fold right ↔ Coincide (skeleton left) (skeleton right) := by
  rw [← String.toList_inj, toList_fold, toList_fold, closeHyphen_eq_iff]

theorem length_fold_le : (fold text).length ≤ text.length + 1 := by
  have closed := length_closeHyphen_le (skeleton text)
  rwa [← toList_fold, String.length_toList, skeleton, List.length_map,
    String.length_toList] at closed

theorem isInnerCharacter_of_mem_fold
    {character : Char}
    (present : character ∈ (fold text).toList) :
    Label.isInnerCharacter false character = true := by
  rw [toList_fold] at present
  refine isInnerCharacter_of_mem_closeHyphen (fun character plain => ?_) present
  obtain ⟨origin, -, rfl⟩ := List.mem_map.mp plain
  exact isInnerCharacter_plainCharacter origin

theorem getLast?_fold : (fold text).toList.getLast? ≠ some '-' := by
  rw [toList_fold]
  exact getLast?_closeHyphen _

/-- A folded text is plain already and does not end in a hyphen. -/
theorem fold_fold : fold (fold text) = fold text := by
  have plain : skeleton (fold text) = (fold text).toList :=
    calc (fold text).toList.map plainCharacter
        = (fold text).toList.map id := List.map_congr_left fun character present =>
          plainCharacter_of_isInnerCharacter (isInnerCharacter_of_mem_fold text present)
      _ = (fold text).toList := List.map_id _
  rw [← String.toList_inj, toList_fold, plain, closeHyphen_of_closed (getLast?_fold text)]

/-- What a text starts with is folded character by character. -/
theorem fold_append
    (start : String)
    {rest : String}
    (inhabited : rest ≠ "") :
    fold (start ++ rest) = String.ofList (skeleton start) ++ fold rest := by
  have inhabited : skeleton rest ≠ [] := by simpa [skeleton] using inhabited
  rw [← String.toList_inj, toList_fold, String.toList_append, String.toList_ofList, toList_fold,
    ← closeHyphen_append _ inhabited, skeleton, String.toList_append, List.map_append]
  rfl

/-! ## Names of locks and finalizers -/

variable (driver : DriverName)

theorem lockName_eq : driver.lockName = lockPrefix ++ fold driver.text := by
  rw [lockName, fold_append lockPrefix driver.nonempty]
  congr 1

/-- Two drivers share the name of the lock exactly if they share the finalizer, and they do exactly
if their names coincide but for case and foreign characters. -/
theorem names_shared_iff (first second : DriverName) :
    (first.lockName = second.lockName ↔ first.finalizer = second.finalizer) ∧
      (first.lockName = second.lockName ↔
        Coincide (skeleton first.text) (skeleton second.text)) := by
  have lockNames : first.lockName = second.lockName ↔ fold first.text = fold second.text := by
    rw [lockName_eq, lockName_eq, String.append_right_inj]
  have finalizers : first.finalizer = second.finalizer ↔ fold first.text = fold second.text := by
    unfold finalizer
    exact String.append_right_inj _
  exact ⟨lockNames.trans finalizers.symm, lockNames.trans (fold_eq_iff _ _)⟩

/-- Names that are told apart by their drivers only. -/
example : fold "Disk_" = "disk-x" ∧ fold "disk-x" = "disk-x" ∧ fold "disk." = "disk-x" := by
  decide +kernel

/-- The name of a lock has room for a driver name of 227 characters. -/
theorem length_lockName_le : driver.lockName.length ≤ driver.text.length + 26 := by
  have folded := length_fold_le driver.text
  have start : lockPrefix.length = 25 := rfl
  rw [lockName_eq, String.length_append, start]
  omega

/-- A folded text that is not empty ends with a letter or a digit. -/
theorem isEndCharacter_getLast_fold (inhabited : (fold text).toList ≠ []) :
    (fold text).toList.getLast?.any Label.isEndCharacter = true := by
  have last := List.getLast?_eq_some_getLast inhabited
  have inner := isInnerCharacter_of_mem_fold text (List.getLast_mem inhabited)
  have closed := getLast?_fold text
  rw [last] at closed ⊢
  obtain outer | hyphen | ⟨⟨⟩, -⟩ := Label.isInnerCharacter_iff.mp inner
  · rw [Option.any_some, outer]
  · exact absurd (congrArg some hyphen) closed

/-- The lock can have the name that is made for it exactly if the name is not too long. -/
theorem isValid_lockName_iff (limit : Nat) :
    Label.isValid limit true driver.lockName = true ↔ driver.lockName.length ≤ limit := by
  have start : driver.lockName.toList = lockPrefix.toList ++ (fold driver.text).toList := by
    rw [lockName_eq, String.toList_append]
  have first : driver.lockName.toList.head?.any Label.isEndCharacter = true := by
    rw [start]
    rfl
  have last : driver.lockName.toList.getLast?.any Label.isEndCharacter = true :=
    isEndCharacter_getLast_fold (lockPrefix ++ driver.text) (by
      rw [← lockName, start]
      simp [lockPrefix])
  have inner : ∀ character ∈ driver.lockName.toList,
      Label.isInnerCharacter true character = true :=
    fun _ present => Label.isInnerCharacter_mono
      (isInnerCharacter_of_mem_fold (lockPrefix ++ driver.text) present)
  have octets := Label.utf8ByteSize_of_inner inner
  rw [String.ofList_toList, String.length_toList] at octets
  rw [Label.isValid, List.all_eq_true.mpr inner, first, last, octets]
  simp

/-- The lock can have the name that is made for a driver exactly if it has at most 253 characters,
so always for a driver name of at most 227 characters. What is folded is not changed by folding it
again. -/
theorem lockName_accepted_iff (driver : DriverName) (text : String) :
    (Label.checkLockName driver.lockName = .ok () ↔ driver.lockName.length ≤ 253) ∧
      (driver.text.length ≤ 227 → Label.checkLockName driver.lockName = .ok ()) ∧
      fold (fold text) = fold text := by
  have valid : Label.checkLockName driver.lockName = .ok () ↔ driver.lockName.length ≤ 253 := by
    rw [← isValid_lockName_iff, Label.checkLockName]
    split <;> simp_all
  refine ⟨valid, fun short => valid.mpr ?_, fold_fold text⟩
  have long := length_lockName_le driver
  omega

/-- A driver whose name has no letter that is kept as it is, and ends in a hyphen once folded. -/
def uncommon : DriverName := ⟨"ÄTHER/CSI_", by decide⟩

theorem lockName_accepted_of_uncommon :
    uncommon.text.length ≤ 227 ∧ Label.checkLockName uncommon.lockName = .ok () :=
  ⟨by decide, (lockName_accepted_iff uncommon uncommon.text).2.1 (by decide)⟩

end DriverName

end VolumeAttacher
