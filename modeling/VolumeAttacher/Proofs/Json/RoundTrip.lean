import Mathlib.Tactic.SplitIfs
import VolumeAttacher.Json.Printer
import VolumeAttacher.Json.Reader

/-!
# Reading what was written

The text of a value is read as that value. The lexer finds the tokens of the value, whatever comes
after them, and the reader puts the value together from them, whatever is still open.
-/

namespace VolumeAttacher
namespace Json

/-! ## Numerals -/

/-- A decimal numeral does not begin with a zero that is not alone. -/
theorem wholePart?_toDigits (number : Nat) :
    wholePart? (Nat.toDigits 10 number) = some number := by
  have unpadded : ∀ next rest, Nat.toDigits 10 number ≠ '0' :: next :: rest := by
    induction number using Nat.strongRecOn with
    | ind number inductionHypothesis =>
      intro next rest digits
      by_cases short : number < 10
      · simp [Nat.toDigits_of_lt_base short] at digits
      · rw [Nat.toDigits_of_base_le (by decide) (Nat.le_of_not_lt short)] at digits
        cases leading : Nat.toDigits 10 (number / 10) with
        | nil => exact Nat.toDigits_ne_nil leading
        | cons first others =>
          rw [leading] at digits
          obtain ⟨rfl, later⟩ := List.cons.inj digits
          cases others with
          | cons second others =>
            exact inductionHypothesis (number / 10) (by omega) second others leading
          | nil =>
            have zero : number / 10 = 0 := by
              rw [← Nat.ofDigitChars_ten_toDigits (n := number / 10), leading]
              rfl
            omega
  unfold wholePart?
  split
  · next empty => exact absurd empty Nat.toDigits_ne_nil
  · next next rest digits => exact absurd digits (unpadded next rest)
  · rw [Nat.ofDigitChars_ten_toDigits]

/-- A decimal numeral ends where there is no digit. -/
theorem takeWhile_toDigits
    (number : Nat)
    (rest : List Char)
    (ends : ∀ next ∈ rest.head?, next.isDigit = false) :
    (Nat.toDigits 10 number ++ rest).takeWhile Char.isDigit = Nat.toDigits 10 number ∧
      (Nat.toDigits 10 number ++ rest).dropWhile Char.isDigit = rest := by
  have digits : ∀ digit ∈ Nat.toDigits 10 number, digit.isDigit = true :=
    fun digit present => Nat.isDigit_of_mem_toDigits (by decide) (by decide) present
  rw [List.takeWhile_append_of_pos digits, List.dropWhile_append_of_pos digits]
  cases rest with
  | nil => simp
  | cons next rest => simp [ends next rfl]

/-- A whole number and its sign. -/
def signed (negative : Bool) (number : Nat) : Int := if negative then -(number : Int) else number

theorem unsigned?_whole
    {negative : Bool}
    {number : Nat}
    (proper : negative = true → number ≠ 0) :
    unsigned? negative (Nat.toDigits 10 number) = some (.whole (signed negative number)) := by
  obtain ⟨taken, dropped⟩ := takeWhile_toDigits number [] nofun
  rw [List.append_nil] at taken dropped
  unfold unsigned?
  simp only [taken, dropped, wholePart?_toDigits, Option.bind_eq_bind, Option.bind_some]
  rw [if_neg (by simpa using proper)]
  rfl

theorem unsigned?_decimal (negative : Bool) (number : Nat) (rest : List Char) :
    unsigned? negative (Nat.toDigits 10 number ++ 'e' :: rest) =
      (exponentPart? rest).map (.decimal (signed negative number)) := by
  obtain ⟨taken, dropped⟩ := takeWhile_toDigits number ('e' :: rest) (by simp)
  unfold unsigned?
  simp only [taken, dropped, wholePart?_toDigits, Option.bind_eq_bind, Option.bind_some]
  rfl

theorem bareToken?_minus (text : List Char) : bareToken? ('-' :: text) = unsigned? true text := by
  simp [bareToken?]

/-- A decimal numeral begins with a digit. -/
theorem exists_first_toDigits (number : Nat) :
    ∃ first others, Nat.toDigits 10 number = first :: others ∧
      ∀ other, other.isDigit = false → first ≠ other := by
  cases digits : Nat.toDigits 10 number with
  | nil => exact absurd digits Nat.toDigits_ne_nil
  | cons first others =>
    have digit : first.isDigit = true :=
      Nat.isDigit_of_mem_toDigits (by decide) (by decide) (digits ▸ List.mem_cons_self)
    refine ⟨first, others, rfl, ?_⟩
    rintro _ letter rfl
    exact Bool.false_ne_true (letter.symm.trans digit)

theorem bareToken?_toDigits (number : Nat) (rest : List Char) :
    bareToken? (Nat.toDigits 10 number ++ rest) =
      unsigned? false (Nat.toDigits 10 number ++ rest) := by
  obtain ⟨first, others, digits, differs⟩ := exists_first_toDigits number
  simp [bareToken?, digits, differs '-' rfl, differs 'n' rfl, differs 't' rfl, differs 'f' rfl]

/-- The numeral of a whole number: a sign if the number is negative, and digits. -/
theorem exists_wholeNumeral (value : Int) :
    ∃ negative number, signed negative number = value ∧ (negative = true → number ≠ 0) ∧
      wholeNumeral value = if negative then '-' :: Nat.toDigits 10 number
        else Nat.toDigits 10 number := by
  by_cases negative : value < 0
  · refine ⟨true, (-value).toNat, ?_, fun _ => by omega, if_pos negative⟩
    simp only [signed, if_true]
    omega
  · refine ⟨false, value.toNat, ?_, nofun, if_neg negative⟩
    simp only [signed, Bool.false_eq_true, if_false]
    omega

theorem bareToken?_wholeNumeral (value : Int) :
    bareToken? (wholeNumeral value) = some (.whole value) := by
  obtain ⟨negative, number, rfl, proper, numeral⟩ := exists_wholeNumeral value
  rw [numeral]
  cases negative with
  | true => rw [if_pos rfl, bareToken?_minus, unsigned?_whole proper]
  | false =>
    rw [if_neg Bool.false_ne_true, ← List.append_nil (Nat.toDigits 10 number), bareToken?_toDigits,
      List.append_nil, unsigned?_whole proper]

theorem exponentPart?_wholeNumeral (value : Int) :
    exponentPart? (wholeNumeral value) = some value := by
  obtain ⟨negative, number, rfl, -, numeral⟩ := exists_wholeNumeral value
  have digits : (Nat.toDigits 10 number).all Char.isDigit = true := by
    rw [List.all_eq_true]
    exact fun digit present => Nat.isDigit_of_mem_toDigits (by decide) (by decide) present
  rw [numeral]
  unfold exponentPart?
  cases negative with
  | true => simp [digits, signed, Nat.toDigits_ne_nil, Nat.ofDigitChars_ten_toDigits]
  | false =>
    rw [if_neg Bool.false_ne_true]
    split
    next sign rest isSplit =>
    have unsigned : (sign, rest) = (1, Nat.toDigits 10 number) := by
      obtain ⟨first, others, isFirst, differs⟩ := exists_first_toDigits number
      rw [← isSplit, isFirst]
      split
      · next same => exact absurd (List.cons.inj same).1 (differs '-' rfl)
      · next same => exact absurd (List.cons.inj same).1 (differs '+' rfl)
      · rfl
    obtain ⟨rfl, rfl⟩ := Prod.mk.inj unsigned
    simp [digits, signed, Nat.toDigits_ne_nil, Nat.ofDigitChars_ten_toDigits]

theorem bareToken?_decimal (mantissa exponent : Int) :
    bareToken? (wholeNumeral mantissa ++ 'e' :: wholeNumeral exponent) =
      some (.decimal mantissa exponent) := by
  obtain ⟨negative, number, rfl, -, numeral⟩ := exists_wholeNumeral mantissa
  rw [numeral]
  cases negative with
  | true =>
    rw [if_pos rfl, List.cons_append, bareToken?_minus, unsigned?_decimal,
      exponentPart?_wholeNumeral]
    rfl
  | false =>
    rw [if_neg Bool.false_ne_true, bareToken?_toDigits, unsigned?_decimal,
      exponentPart?_wholeNumeral]
    rfl

/-! ## Characters and tokens -/

theorem lex_cons (state : LexState) (character : Char) (rest : List Char) :
    lex state (character :: rest) =
      (lexStep state character).bind fun step => (lex step.2 rest).map (step.1 ++ ·) := by
  rw [lex]
  cases lexStep state character with
  | none => rfl
  | some step =>
    dsimp only [Option.bind_eq_bind, Option.bind_some]
    cases lex step.2 rest <;> rfl

/-- A character that completes nothing. -/
theorem lex_cons_of_step
    {state next : LexState}
    {character : Char}
    (rest : List Char)
    (step : lexStep state character = some ([], next)) :
    lex state (character :: rest) = lex next rest := by
  rw [lex_cons, step, Option.bind_some]
  simp

theorem lexBetween_of_isBare {character : Char} (bare : isBare character = true) :
    lexBetween character = some ([], .bare [character]) := by
  have differs (other : Char) (mark : isBare other = false) : character ≠ other := by
    rintro rfl
    exact Bool.false_ne_true (mark.symm.trans bare)
  have space : isSpace character = false := by
    simp [isSpace, differs ' ' rfl, differs '\t' rfl, differs '\n' rfl, differs '\r' rfl]
  simp [lexBetween, space, bare, differs '"' rfl, differs '[' rfl, differs ']' rfl,
    differs '\x7b' rfl, differs '\x7d' rfl, differs ',' rfl, differs ':' rfl]

/-- A numeral or a word ends before a character that cannot belong to it. -/
theorem lex_bare
    {rest : List Char}
    (seen word : List Char)
    (bare : ∀ character ∈ word, isBare character = true)
    (ends : ∀ next ∈ rest.head?, isBare next = false) :
    lex (.bare seen) (word ++ rest) =
      (bareToken? (seen.reverse ++ word)).bind fun token =>
        (lex .between rest).map (token :: ·) := by
  induction word generalizing seen with
  | cons character word inductionHypothesis =>
    obtain ⟨first, bare⟩ := List.forall_mem_cons.mp bare
    have goesOn : lexStep (.bare seen) character = some ([], .bare (character :: seen)) := by
      simp [lexStep, first]
    rw [List.cons_append, lex_cons_of_step _ goesOn, inductionHypothesis _ bare]
    simp
  | nil =>
    rw [List.append_nil, List.nil_append]
    cases rest with
    | nil => cases token : bareToken? seen.reverse <;> simp [lex, lexEnd, token]
    | cons next rest =>
      have mark := ends next rfl
      rw [lex_cons, lex_cons]
      cases token : bareToken? seen.reverse with
      | none => simp [lexStep, mark, token]
      | some token' =>
        cases step : lexBetween next with
        | none => simp [lexStep, mark, token, step]
        | some step' => simp [lexStep, mark, token, step, Function.comp_def]

theorem lex_word
    {word rest : List Char}
    {token : Token}
    (bare : ∀ character ∈ word, isBare character = true)
    (isToken : bareToken? word = some token)
    (ends : ∀ next ∈ rest.head?, isBare next = false) :
    lex .between (word ++ rest) = (lex .between rest).map (token :: ·) := by
  cases word with
  | nil => cases isToken
  | cons first word =>
    obtain ⟨isFirst, bare⟩ := List.forall_mem_cons.mp bare
    have begins : lexStep .between first = some ([], .bare [first]) :=
      lexBetween_of_isBare isFirst
    rw [List.cons_append, lex_cons_of_step _ begins, lex_bare [first] word bare ends]
    simp only [List.reverse_singleton, List.singleton_append, isToken, Option.bind_some]

theorem hexDigitValue?_hexDigit {value : Nat} (small : value < 16) :
    Text.hexDigitValue? (Text.hexDigit value) = some value := by
  revert value
  decide

/-- A code unit is read digit by digit. -/
theorem lex_unit
    (seen rest : List Char)
    {high low : Nat}
    (isHigh : high < 16)
    (isLow : low < 16)
    (control : high * 16 + low < 32) :
    lex (.string seen)
        ('\\' :: 'u' :: '0' :: '0' :: Text.hexDigit high :: Text.hexDigit low :: rest) =
      lex (.string (Char.ofNat (high * 16 + low) :: seen)) rest := by
  have closes : closeUnit seen none (high * 16 + low) =
      some (.string (Char.ofNat (high * 16 + low) :: seen)) := by
    unfold closeUnit
    dsimp only
    rw [if_neg (by simp; omega), if_neg (by simp; omega)]
  have first : lexStep (.unit seen none 0 0) '0' = some ([], .unit seen none 1 0) := rfl
  have second : lexStep (.unit seen none 1 0) '0' = some ([], .unit seen none 2 0) := rfl
  have third : lexStep (.unit seen none 2 0) (Text.hexDigit high) =
      some ([], .unit seen none 3 high) := by
    simp [lexStep, hexDigitValue?_hexDigit isHigh]
  have fourth : lexStep (.unit seen none 3 high) (Text.hexDigit low) =
      some ([], .string (Char.ofNat (high * 16 + low) :: seen)) := by
    simp [lexStep, hexDigitValue?_hexDigit isLow, closes]
  calc lex (.string seen)
        ('\\' :: 'u' :: '0' :: '0' :: Text.hexDigit high :: Text.hexDigit low :: rest)
    _ = lex (.unit seen none 0 0)
        ('0' :: '0' :: Text.hexDigit high :: Text.hexDigit low :: rest) := by
      rw [lex_cons_of_step _ rfl, lex_cons_of_step _ rfl]
    _ = lex (.unit seen none 2 0) (Text.hexDigit high :: Text.hexDigit low :: rest) := by
      rw [lex_cons_of_step _ first, lex_cons_of_step _ second]
    _ = lex (.string (Char.ofNat (high * 16 + low) :: seen)) rest := by
      rw [lex_cons_of_step _ third, lex_cons_of_step _ fourth]

/-- A letter after a backslash stands for one character. -/
theorem lex_letter
    {letter value : Char}
    (seen rest : List Char)
    (known : unescape? letter = some value) :
    lex (.string seen) ('\\' :: letter :: rest) = lex (.string (value :: seen)) rest := by
  have differs : letter ≠ 'u' := by
    rintro rfl
    cases known
  have unescapes : lexStep (.escape seen) letter = some ([], .string (value :: seen)) := by
    simp [lexStep, differs, known]
  rw [lex_cons_of_step _ rfl, lex_cons_of_step _ unescapes]

/-- What is escaped is read as one character. -/
theorem lex_escape (seen : List Char) (character : Char) (rest : List Char) :
    lex (.string seen) (escape character ++ rest) = lex (.string (character :: seen)) rest := by
  unfold escape
  split_ifs with isQuote isBackslash isBackspace isFormFeed isNewline isReturn isTab isControl
  iterate 7
    · subst_vars
      exact lex_letter seen rest rfl
  · refine (lex_unit seen rest (by omega) (Nat.mod_lt _ (by decide)) (by omega)).trans ?_
    rw [Nat.div_add_mod', Char.ofNat_toNat]
  · refine lex_cons_of_step rest ?_
    simp only [lexStep, isQuote, isBackslash, isControl, if_false]

/-- A string is read as one token. -/
theorem lex_quote (value : String) (rest : List Char) :
    lex .between (quote value ++ rest) = (lex .between rest).map (.text value :: ·) := by
  have inside (seen characters : List Char) :
      lex (.string seen) (characters.flatMap escape ++ '"' :: rest) =
        (lex .between rest).map (.text (String.ofList (seen.reverse ++ characters)) :: ·) := by
    induction characters generalizing seen with
    | nil => simp [lex_cons, lexStep]
    | cons character characters inductionHypothesis =>
      rw [List.flatMap_cons, List.append_assoc, lex_escape, inductionHypothesis]
      simp
  have opens : lexStep .between '"' = some ([], .string []) := rfl
  rw [quote, List.cons_append, List.cons_append, List.append_assoc, List.singleton_append,
    lex_cons_of_step _ opens, inside]
  simp

/-! ## The tokens of a value -/

mutual

/-- The tokens of a value. -/
def tokens : Json → List Token
  | .null => [.null]
  | .boolean value => [.boolean value]
  | .whole value => [.whole value]
  | .decimal mantissa exponent => [.decimal mantissa exponent]
  | .text value => [.text value]
  | .array items => .openArray :: itemTokens items ++ [.closeArray]
  | .object members => .openObject :: memberTokens members ++ [.closeObject]

/-- The tokens of the items of an array. -/
def itemTokens : List Json → List Token
  | [] => []
  | [item] => tokens item
  | item :: rest => tokens item ++ .comma :: itemTokens rest

/-- The tokens of the members of an object. -/
def memberTokens : List (String × Json) → List Token
  | [] => []
  | [(name, value)] => .text name :: .colon :: tokens value
  | (name, value) :: rest => .text name :: .colon :: tokens value ++ .comma :: memberTokens rest

end

theorem printItems_cons_cons (item second : Json) (others : List Json) :
    printItems (item :: second :: others) =
      print item ++ ',' :: printItems (second :: others) := rfl

theorem printMembers_cons_cons
    (name : String)
    (value : Json)
    (second : String × Json)
    (others : List (String × Json)) :
    printMembers ((name, value) :: second :: others) =
      quote name ++ ':' :: print value ++ ',' :: printMembers (second :: others) := rfl

theorem itemTokens_cons_cons (item second : Json) (others : List Json) :
    itemTokens (item :: second :: others) =
      tokens item ++ .comma :: itemTokens (second :: others) := rfl

theorem memberTokens_cons_cons
    (name : String)
    (value : Json)
    (second : String × Json)
    (others : List (String × Json)) :
    memberTokens ((name, value) :: second :: others) =
      .text name :: .colon :: tokens value ++ .comma :: memberTokens (second :: others) := rfl

theorem isBare_of_mem_wholeNumeral
    {value : Int}
    {character : Char}
    (present : character ∈ wholeNumeral value) :
    isBare character = true := by
  have digits {number : Nat} (digit : character ∈ Nat.toDigits 10 number) :
      isBare character = true := by
    have isDigit : character.isDigit = true :=
      Nat.isDigit_of_mem_toDigits (by decide) (by decide) digit
    simp [isBare, Char.isAlphanum, isDigit]
  obtain ⟨negative, number, -, -, numeral⟩ := exists_wholeNumeral value
  rw [numeral] at present
  cases negative with
  | true =>
    obtain rfl | digit := List.mem_cons.mp present
    · rfl
    · exact digits digit
  | false => exact digits present

/-- A mark between tokens is a token by itself. -/
theorem lex_mark
    {character : Char}
    {token : Token}
    (rest : List Char)
    (step : lexBetween character = some ([token], .between)) :
    lex .between (character :: rest) = (lex .between rest).map (token :: ·) := by
  have step' : lexStep .between character = some ([token], .between) := step
  rw [lex_cons, step', Option.bind_some]
  rfl

mutual

/-- The lexer finds the tokens of a value. -/
theorem lex_print
    (value : Json)
    {rest : List Char}
    (ends : ∀ next ∈ rest.head?, isBare next = false) :
    lex .between (print value ++ rest) = (lex .between rest).map (tokens value ++ ·) := by
  match value with
  | .null => exact lex_word (List.all_eq_true.mp rfl) rfl ends
  | .boolean true => exact lex_word (List.all_eq_true.mp rfl) rfl ends
  | .boolean false => exact lex_word (List.all_eq_true.mp rfl) rfl ends
  | .whole value =>
    exact lex_word (fun _ => isBare_of_mem_wholeNumeral) (bareToken?_wholeNumeral value) ends
  | .decimal mantissa exponent =>
    refine lex_word ?_ (bareToken?_decimal mantissa exponent) ends
    intro character present
    obtain inMantissa | later := List.mem_append.mp present
    · exact isBare_of_mem_wholeNumeral inMantissa
    · obtain rfl | inExponent := List.mem_cons.mp later
      · rfl
      · exact isBare_of_mem_wholeNumeral inExponent
  | .text value => exact lex_quote value rest
  | .array items =>
    rw [print, List.cons_append, List.cons_append, List.append_assoc, List.singleton_append,
      lex_mark _ rfl, lex_printItems items (by simp; rfl), lex_mark _ rfl]
    simp [tokens, Function.comp_def]
  | .object members =>
    rw [print, List.cons_append, List.cons_append, List.append_assoc, List.singleton_append,
      lex_mark _ rfl, lex_printMembers members (by simp; rfl), lex_mark _ rfl]
    simp [tokens, Function.comp_def]

theorem lex_printItems
    (items : List Json)
    {rest : List Char}
    (ends : ∀ next ∈ rest.head?, isBare next = false) :
    lex .between (printItems items ++ rest) = (lex .between rest).map (itemTokens items ++ ·) := by
  match items with
  | [] => simp [printItems, itemTokens]
  | [item] => exact lex_print item ends
  | item :: second :: others =>
    rw [printItems_cons_cons, List.append_assoc, List.cons_append, lex_print item (by simp; rfl),
      lex_mark _ rfl, lex_printItems (second :: others) ends]
    simp [itemTokens_cons_cons, Function.comp_def]

theorem lex_printMembers
    (members : List (String × Json))
    {rest : List Char}
    (ends : ∀ next ∈ rest.head?, isBare next = false) :
    lex .between (printMembers members ++ rest) =
      (lex .between rest).map (memberTokens members ++ ·) := by
  match members with
  | [] => simp [printMembers, memberTokens]
  | [(name, value)] =>
    rw [printMembers, List.append_assoc, List.cons_append, lex_quote, lex_mark _ rfl,
      lex_print value ends]
    simp [memberTokens, Function.comp_def]
  | (name, value) :: second :: others =>
    rw [printMembers_cons_cons, List.append_assoc, List.append_assoc, List.cons_append,
      List.cons_append, lex_quote, lex_mark _ rfl, lex_print value (by simp; rfl), lex_mark _ rfl,
      lex_printMembers (second :: others) ends]
    simp [memberTokens_cons_cons, Function.comp_def]

end

/-! ## The value of its tokens -/

/-- Where the first item of an array is awaited, items are read as anywhere. -/
theorem foldlM_firstItems
    (item : Json)
    (items : List Json)
    (stack : List Open)
    (rest : List Token) :
    (itemTokens (item :: items) ++ rest).foldlM readStep ⟨stack, .firstItem⟩ =
      (itemTokens (item :: items) ++ rest).foldlM readStep ⟨stack, .value⟩ := by
  cases items <;> cases item <;> rfl

/-- Where the first member of an object is awaited, members are read as anywhere. -/
theorem foldlM_firstName
    (member : String × Json)
    (members : List (String × Json))
    (stack : List Open)
    (rest : List Token) :
    (memberTokens (member :: members) ++ rest).foldlM readStep ⟨stack, .firstName⟩ =
      (memberTokens (member :: members) ++ rest).foldlM readStep ⟨stack, .name⟩ := by
  cases members <;> rfl

theorem foldlM_cons_of_step
    {state next : ReadState}
    {token : Token}
    (rest : List Token)
    (step : readStep state token = some next) :
    (token :: rest).foldlM readStep state = rest.foldlM readStep next := by
  rw [List.foldlM_cons, step]
  rfl

mutual

/-- The reader puts a value together from its tokens. -/
theorem foldlM_tokens (value : Json) (stack : List Open) (rest : List Token) :
    (tokens value ++ rest).foldlM readStep ⟨stack, .value⟩ =
      rest.foldlM readStep ⟨stack, .next value⟩ := by
  match value with
  | .null | .boolean _ | .whole _ | .decimal _ _ | .text _ => rfl
  | .array [] => rfl
  | .array (item :: items) =>
    rw [tokens, List.cons_append, List.cons_append, List.append_assoc, List.singleton_append,
      foldlM_cons_of_step _ rfl, foldlM_firstItems, foldlM_itemTokens (item :: items) nofun]
    rfl
  | .object [] => rfl
  | .object (member :: members) =>
    rw [tokens, List.cons_append, List.cons_append, List.append_assoc, List.singleton_append,
      foldlM_cons_of_step _ rfl, foldlM_firstName, foldlM_memberTokens (member :: members) nofun]
    rfl

theorem foldlM_itemTokens
    (items : List Json)
    (isThere : items ≠ [])
    (seen : List Json)
    (stack : List Open)
    (rest : List Token) :
    (itemTokens items ++ .closeArray :: rest).foldlM readStep ⟨.array seen :: stack, .value⟩ =
      rest.foldlM readStep ⟨stack, .next (.array (seen.reverse ++ items))⟩ := by
  match items with
  | [] => exact absurd rfl isThere
  | [item] => rw [itemTokens, foldlM_tokens item, foldlM_cons_of_step _ rfl, List.reverse_cons]
  | item :: second :: others =>
    rw [itemTokens_cons_cons, List.append_assoc, List.cons_append, foldlM_tokens item,
      foldlM_cons_of_step _ rfl, foldlM_itemTokens (second :: others) nofun, List.reverse_cons,
      List.append_assoc, List.singleton_append]

theorem foldlM_memberTokens
    (members : List (String × Json))
    (isThere : members ≠ [])
    (seen : List (String × Json))
    (name : String)
    (stack : List Open)
    (rest : List Token) :
    (memberTokens members ++ .closeObject :: rest).foldlM readStep
        ⟨.object seen name :: stack, .name⟩ =
      rest.foldlM readStep ⟨stack, .next (.object (seen.reverse ++ members))⟩ := by
  match members with
  | [] => exact absurd rfl isThere
  | [(key, value)] =>
    rw [memberTokens, List.cons_append, List.cons_append, foldlM_cons_of_step _ rfl,
      foldlM_cons_of_step _ rfl, foldlM_tokens value, foldlM_cons_of_step _ rfl,
      List.reverse_cons]
  | (key, value) :: second :: others =>
    rw [memberTokens_cons_cons, List.append_assoc, List.cons_append, List.cons_append,
      List.cons_append, foldlM_cons_of_step _ rfl, foldlM_cons_of_step _ rfl,
      foldlM_tokens value, foldlM_cons_of_step _ rfl,
      foldlM_memberTokens (second :: others) nofun, List.reverse_cons, List.append_assoc,
      List.singleton_append]

end

/-- The text of a value is read as that value. -/
theorem ofText?_render (value : Json) : ofText? value.render = some value := by
  have isLexed : lex .between (print value) = some (tokens value) := by
    have ends : ∀ next ∈ ([] : List Char).head?, isBare next = false := nofun
    rw [← List.append_nil (print value), lex_print value ends]
    simp [lex, lexEnd]
  have isRead : (tokens value).foldlM readStep ⟨[], .value⟩ = some ⟨[], .next value⟩ := by
    rw [← List.append_nil (tokens value), foldlM_tokens]
    rfl
  unfold ofText? readTokens render
  rw [String.toList_ofList, isLexed]
  simp [isRead]

end Json

end VolumeAttacher
