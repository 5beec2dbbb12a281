import TextTemplate.Proofs.Filter.Tokens
import TextTemplate.Proofs.Template.Segments

/-! Writing what a replacement text becomes at a match, by the bytes of the text. No cut ever
falls inside a character, so the whole text is written, token after token, behind what was
written before. -/
namespace TextTemplate.Replacement

open Decimal (isDigit_iff)
open Expression.Grammar (Digit)
open Regex (Match)
open Template (byteAt)
open Text (Slice bytes byteLength byteLength_cons)

/-- The part of a text from a byte to another. There is none if either falls inside a character. -/
def cut? (text : String) (start stop : Nat) : Option String :=
  if start ≤ stop ∧ String.Pos.Raw.isValid text ⟨start⟩ = true ∧ String.Pos.Raw.isValid text ⟨stop⟩ = true then
    String.fromUTF8? (text.toByteArray.extract start stop)
  else none

def firstDollar? (text : String) : Option Nat :=
  if '$' ∈ text.toList then some (byteLength (text.toList.takeWhile (· ≠ '$'))) else none

def isDigitByte (byte : UInt8) : Bool := '0'.toUInt8 ≤ byte && byte ≤ '9'.toUInt8

def digitOfByte (byte : UInt8) : Nat := (byte - '0'.toUInt8).toNat

def groupText? (subject : String) (found : Match) (index : Nat) : Option String :=
  match found.group? index with
  | some span => cut? subject (byteAt subject.toList span.start) (byteAt subject.toList span.stop)
  | none => some ""

/-- What a dollar sign inserts by a digit and the byte behind it, and the number of these that it takes. -/
def reference? (groups : Nat) (subject : String) (found : Match) (first : UInt8) (second : Option UInt8) :
    Option (String × Nat) :=
  let one := digitOfByte first
  let two := (second.filter isDigitByte).map fun byte => one * 10 + digitOfByte byte
  match two.filter (names groups) with
  | some index => (groupText? subject found index).map (·, 2)
  | none => if names groups one then (groupText? subject found one).map (·, 1) else some ("$", 0)

/-- What a dollar sign inserts by the bytes behind it, and the number of those that it takes. -/
def insertion? (groups : Nat) (subject : String) (found : Match) (behind : List UInt8) : Option (String × Nat) :=
  let start := byteAt subject.toList found.span.start
  let stop := byteAt subject.toList found.span.stop
  match behind with
  | [] => some ("$", 0)
  | first :: more =>
    if first = '$'.toUInt8 then some ("$", 1)
    else if first = '&'.toUInt8 then (cut? subject start stop).map (·, 1)
    else if first = '\x60'.toUInt8 then (cut? subject 0 start).map (·, 1)
    else if first = '\x27'.toUInt8 then (cut? subject stop subject.utf8ByteSize).map (·, 1)
    else if isDigitByte first then reference? groups subject found first more[0]?
    else some ("$", 0)

theorem cut?_size {text piece : String} {start stop : Nat} (within : cut? text start stop = some piece) :
    start + piece.utf8ByteSize ≤ stop := by
  unfold cut? at within
  split at within
  · rename_i bounds
    unfold String.fromUTF8? at within
    split at within
    · cases within
      have size : (text.toByteArray.extract start stop).size ≤ stop - start := by
        rw [ByteArray.size_extract]
        omega
      change start + (text.toByteArray.extract start stop).size ≤ stop
      omega
    · cases within
  · cases within

theorem cut?_of_slice {text piece : String} {start stop : Nat} (slice : Slice text start stop piece) :
    cut? text start stop = some piece := by
  rw [cut?, if_pos ⟨slice.ordered, String.Pos.Raw.isValid_eq_true_iff.mpr slice.begins,
    String.Pos.Raw.isValid_eq_true_iff.mpr slice.ends⟩, slice.bytes, String.fromUTF8?, dif_pos piece.isValidUTF8]
  rfl

/-- Writes a replacement text behind what is written already: what stands before its first
dollar sign, what the dollar sign inserts, and then the rest of the text in the same way. -/
def write (groups : Nat) (subject : String) (found : Match) (written rest : String) : Option String :=
  match firstDollar? rest with
  | none => some (written ++ rest)
  | some index =>
    match cut? rest 0 index, _ : cut? rest (index + 1) rest.utf8ByteSize with
    | some before, some behind =>
      match insertion? groups subject found (bytes behind) with
      | none => none
      | some (inserted, used) =>
        match _ : cut? behind used behind.utf8ByteSize with
        | none => none
        | some later => write groups subject found (written ++ before ++ inserted) later
    | _, _ => none
termination_by rest.utf8ByteSize
decreasing_by
  have shorter := cut?_size ‹cut? rest (index + 1) rest.utf8ByteSize = some behind›
  have further := cut?_size ‹cut? behind used behind.utf8ByteSize = some later›
  omega

variable {groups : Nat} {subject : String} {found : Match} {written inserted : String} {used : Nat}
variable {text before behind later : List Char} {token : Token} {row : List Token} {c : Char}

theorem cut?_left (first second : List Char) :
    cut? (String.ofList (first ++ second)) 0 (byteLength first) = some (String.ofList first) := by
  have rest : Text.Rest (String.ofList (first ++ second)) 0 (first ++ second) :=
    ⟨[], String.toList_ofList, rfl⟩
  have slice := rest.slice
  rw [Nat.zero_add] at slice
  exact cut?_of_slice slice

theorem cut?_right (first second : List Char) :
    cut? (String.ofList (first ++ second)) (byteLength first) (String.ofList (first ++ second)).utf8ByteSize =
      some (String.ofList second) := by
  have rest : Text.Rest (String.ofList (first ++ second)) (byteLength first) (second ++ []) :=
    ⟨first, by rw [String.toList_ofList, List.append_nil], rfl⟩
  rw [Text.utf8ByteSize_ofList, Text.byteLength_append]
  exact cut?_of_slice rest.slice

theorem cut?_byteAt (subject : String) {start stop : Nat} (ordered : start ≤ stop) :
    cut? subject (byteAt subject.toList start) (byteAt subject.toList stop) =
      some (String.ofList (slice subject.toList.toArray ⟨start, stop⟩)) := by
  have rest := Template.rest_byteAt subject start
  rw [← Template.slice_drop ordered] at rest
  have slice := rest.slice
  rw [Template.byteAt_slice ordered] at slice
  exact cut?_of_slice slice

theorem write_done (fresh : '$' ∉ text) :
    write groups subject found written (String.ofList text) = some (written ++ String.ofList text) := by
  have none : firstDollar? (String.ofList text) = none := by
    rw [firstDollar?, String.toList_ofList, if_neg fresh]
  rw [write]
  split
  · rfl
  · rename_i index here
    rw [none] at here
    cases here

theorem firstDollar?_next (fresh : '$' ∉ before) :
    firstDollar? (String.ofList (before ++ '$' :: behind)) = some (byteLength before) := by
  have run : (before ++ '$' :: behind).takeWhile (· ≠ '$') = before := by
    rw [List.takeWhile_append_of_pos fun c member => by simpa using ne_of_mem_of_not_mem member fresh]
    simp
  rw [firstDollar?, String.toList_ofList, if_pos (by simp), run]

/-- Up to the first dollar sign the text is written as it is, and then what that inserts. -/
theorem write_next (fresh : '$' ∉ before)
    (inserts : insertion? groups subject found (bytes (String.ofList behind)) = some (inserted, used))
    (left : cut? (String.ofList behind) used (String.ofList behind).utf8ByteSize = some (String.ofList later)) :
    write groups subject found written (String.ofList (before ++ '$' :: behind)) =
      write groups subject found (written ++ String.ofList before ++ inserted) (String.ofList later) := by
  have first : firstDollar? (String.ofList (before ++ '$' :: behind)) = _ := firstDollar?_next fresh
  have ahead := cut?_left before ('$' :: behind)
  have onward := cut?_right (before ++ ['$']) behind
  rw [List.append_assoc, Text.byteLength_append] at onward
  change cut? (String.ofList (before ++ '$' :: behind)) (byteLength before + 1) _ = _ at onward
  -- The cuts of the writer are the parts that `first`, `ahead`, `onward` and `left` name.
  rw [write]
  split
  · rename_i none
    rw [first] at none
    cases none
  · rename_i index here
    rw [first] at here
    cases here
    split
    · rename_i next own
      cases ahead.symm.trans next
      cases onward.symm.trans own
      rw [inserts]
      change (match _ : cut? (String.ofList behind) used _ with | none => none | some rest => _) = _
      split
      · rename_i none
        rw [left] at none
        cases none
      · rename_i some
        cases left.symm.trans some
        rfl
    · rename_i neither
      exact (neither _ _ ahead onward).elim

theorem groupText?_expand (proper : found.Proper subject.toList.length) (index : Nat) :
    groupText? subject found index =
      some (String.ofList ((Token.group index).expand subject.toList.toArray found)) := by
  unfold groupText?
  split
  · rename_i span taken
    rw [Token.expand, taken]
    exact cut?_byteAt subject (proper.group? taken).2.1
  · rename_i absent
    rw [Token.expand, absent]

theorem toNat_toUInt8 (ascii : c.toNat < 128) : c.toUInt8.toNat = c.toNat :=
  UInt8.toNat_ofNat_of_lt (Nat.lt_trans ascii (by decide))

theorem isDigitByte_iff (ascii : c.toNat < 128) : isDigitByte c.toUInt8 = true ↔ Digit c := by
  rw [isDigitByte, Bool.and_eq_true, decide_eq_true_eq, decide_eq_true_eq, UInt8.le_iff_toNat_le,
    UInt8.le_iff_toNat_le, toNat_toUInt8 ascii]
  rfl

theorem ascii_of_digit (digit : Digit c) : c.toNat < 128 := by
  have last : c.toNat ≤ '9'.toNat := digit.2
  have nine : '9'.toNat = 57 := rfl
  omega

theorem utf8Size_digit (digit : Digit c) : c.utf8Size = 1 :=
  Char.utf8Size_eq_one_iff.mpr (Nat.le_of_lt_succ (ascii_of_digit digit))

theorem digitOfByte_digit (digit : Digit c) : digitOfByte c.toUInt8 = digitValue c := by
  have first : '0'.toUInt8 ≤ c.toUInt8 := by
    rw [UInt8.le_iff_toNat_le, toNat_toUInt8 (ascii_of_digit digit)]
    exact digit.1
  rw [digitOfByte, UInt8.toNat_sub_of_le _ _ first, toNat_toUInt8 (ascii_of_digit digit)]
  rfl

theorem isDigitByte_wide {byte : UInt8} (wide : 128 ≤ byte.toNat) : isDigitByte byte = false := by
  have last : ¬byte ≤ '9'.toUInt8 := by
    rw [UInt8.le_iff_toNat_le]
    have nine : '9'.toUInt8.toNat = 57 := rfl
    omega
  rw [isDigitByte, decide_eq_false last, Bool.and_false]

theorem second_digit (one : Nat) (rest : List Char) :
    ((bytes (String.ofList rest))[0]?.filter isDigitByte).map (fun byte => one * 10 + digitOfByte byte) =
      (rest.head?.filter Char.isDigit).map fun d => one * 10 + digitValue d := by
  cases rest with
  | nil => rfl
  | cons d rest =>
    by_cases ascii : d.toNat < 128
    · rw [Text.bytes_ascii ascii]
      by_cases digit : Digit d
      · simp [Option.filter, (isDigitByte_iff ascii).mpr digit, isDigit_iff.mpr digit, digitOfByte_digit digit]
      · simp [Option.filter, mt (isDigitByte_iff ascii).mp digit, mt isDigit_iff.mp digit]
    · obtain ⟨first, here, wide⟩ := Text.bytes_wide (Nat.le_of_not_lt ascii) rest
      have other : ¬d.isDigit = true := fun digit => ascii (ascii_of_digit (isDigit_iff.mp digit))
      rw [here, List.head?_cons, Option.filter_some, isDigitByte_wide wide, Option.filter_some,
        Bool.eq_false_iff.mpr other]
      rfl

def pairNumber? (groups : Nat) (c : Char) (text : List Char) : Option Nat :=
  ((text.head?.filter Char.isDigit).map fun d => digitValue c * 10 + digitValue d).filter (names groups)

theorem pairNumber?_iff (first : Digit c) {index : Nat} :
    pairNumber? groups c text = some index ↔ ∃ later, Paired groups (c :: text) index later := by
  constructor
  · intro pair
    obtain ⟨both, named⟩ := Option.filter_eq_some_iff.mp pair
    obtain ⟨d, second, rfl⟩ := Option.map_eq_some_iff.mp both
    obtain ⟨head, digit⟩ := Option.filter_eq_some_iff.mp second
    obtain ⟨rest, rfl⟩ := List.head?_eq_some_iff.mp head
    exact ⟨rest, .digits first (isDigit_iff.mp digit) (names_iff.mp named)⟩
  · rintro ⟨later, pair⟩
    cases pair with
    | digits _ second named =>
      rw [pairNumber?, List.head?_cons, Option.filter_some, isDigit_iff.mpr second]
      exact (Option.filter_some ..).trans (if_pos (names_iff.mpr named))

theorem pairNumber?_none (first : Digit c) (alone : ¬∃ index later, Paired groups (c :: text) index later) :
    pairNumber? groups c text = none :=
  Option.eq_none_iff_forall_ne_some.mpr fun index pair => alone ⟨index, (pairNumber?_iff first).mp pair⟩

/-- A byte that begins no token leaves the dollar sign as it is. -/
theorem insertion?_other {first : UInt8} {more : List UInt8}
    (other : ∀ mark ∈ ['$', '&', '\x60', '\x27'], first ≠ mark.toUInt8) (digit : isDigitByte first = false) :
    insertion? groups subject found (first :: more) = some ("$", 0) := by
  simp only [List.mem_cons, List.not_mem_nil, or_false, forall_eq_or_imp, forall_eq] at other
  rw [insertion?, if_neg other.1, if_neg other.2.1, if_neg other.2.2.1, if_neg other.2.2.2, digit]
  rfl

/-- Only a mark has the byte of a mark, and a wide character begins with a byte beyond them all. -/
theorem insertion?_plain (other : c ∉ ['$', '&', '\x60', '\x27']) (digit : ¬Digit c) :
    insertion? groups subject found (bytes (String.ofList (c :: text))) = some ("$", 0) := by
  have marks : ∀ mark ∈ ['$', '&', '\x60', '\x27'], mark.toNat < 128 := by simp
  by_cases ascii : c.toNat < 128
  · have plain := Bool.eq_false_iff.mpr (mt (isDigitByte_iff ascii).mp digit)
    rw [Text.bytes_ascii ascii]
    refine insertion?_other (fun mark member same => other ?_) plain
    have value := congrArg UInt8.toNat same
    rw [toNat_toUInt8 ascii, toNat_toUInt8 (marks mark member)] at value
    rwa [Char.toNat_inj.mp value]
  · obtain ⟨first, head, wide⟩ := Text.bytes_wide (Nat.le_of_not_lt ascii) text
    obtain ⟨more, whole⟩ := List.head?_eq_some_iff.mp ((List.head?_eq_getElem? ..).trans head)
    rw [whole]
    refine insertion?_other (fun mark member same => ?_) (isDigitByte_wide wide)
    rw [same, toNat_toUInt8 (marks mark member)] at wide
    exact Nat.not_le_of_lt (marks mark member) wide

theorem insertion?_digit (first : Digit c) :
    insertion? groups subject found (bytes (String.ofList (c :: text))) =
      match pairNumber? groups c text with
      | some index => (groupText? subject found index).map (·, 2)
      | none =>
        if names groups (digitValue c) then (groupText? subject found (digitValue c)).map (·, 1) else some ("$", 0) := by
  have ascii := ascii_of_digit first
  have byte := (isDigitByte_iff ascii).mpr first
  have other (mark : Char) (plain : isDigitByte mark.toUInt8 = false) : c.toUInt8 ≠ mark.toUInt8 :=
    fun same => Bool.noConfusion (plain.symm.trans (same ▸ byte))
  rw [Text.bytes_ascii ascii, insertion?, if_neg (other '$' rfl), if_neg (other '&' rfl), if_neg (other '\x60' rfl),
    if_neg (other '\x27' rfl), if_pos byte, reference?, second_digit, digitOfByte_digit first]
  rfl

/-- The bytes of the text that a token takes from the text behind its dollar sign, and what it inserts. -/
theorem insertion?_begins (proper : found.Proper subject.toList.length) (begins : Begins groups text token later) :
    ∃ taken, text = taken ++ later ∧ insertion? groups subject found (bytes (String.ofList text)) =
      some (String.ofList (token.expand subject.toList.toArray found), byteLength taken) := by
  cases begins with
  | dollar =>
    refine ⟨['$'], rfl, ?_⟩
    rw [Text.bytes_ascii (by decide)]
    rfl
  | whole =>
    refine ⟨['&'], rfl, ?_⟩
    rw [Text.bytes_ascii (by decide), insertion?, if_neg (by decide), if_pos rfl, cut?_byteAt subject proper.ordered]
    rfl
  | before =>
    refine ⟨['\x60'], rfl, ?_⟩
    have cut : cut? subject 0 _ = _ := cut?_byteAt subject (Nat.zero_le found.span.start)
    rw [Text.bytes_ascii (by decide), insertion?, if_neg (by decide), if_neg (by decide), if_pos rfl, cut]
    rfl
  | after =>
    refine ⟨['\x27'], rfl, ?_⟩
    have cut := cut?_byteAt subject proper.inside
    rw [byteAt, byteAt, List.take_length, ← Text.utf8ByteSize_eq] at cut
    rw [Text.bytes_ascii (by decide), insertion?, if_neg (by decide), if_neg (by decide), if_neg (by decide),
      if_pos rfl]
    change Option.map _ (cut? subject (byteLength _) subject.utf8ByteSize) = _
    rw [cut]
    rfl
  | pair two =>
    cases two with
    | @digits c d _ first second named =>
      refine ⟨[c, d], rfl, ?_⟩
      rw [insertion?_digit first, (pairNumber?_iff first).mpr ⟨_, .digits first second named⟩, byteLength_cons,
        byteLength_cons, utf8Size_digit first, utf8Size_digit second]
      exact congrArg (Option.map _) (groupText?_expand proper _)
  | single alone one =>
    cases one with
    | @digit c _ first named =>
      refine ⟨[c], rfl, ?_⟩
      rw [insertion?_digit first, pairNumber?_none first alone, byteLength_cons, utf8Size_digit first]
      exact (if_pos (names_iff.mpr named)).trans (congrArg (Option.map _) (groupText?_expand proper _))
  | bare mark two one =>
    refine ⟨[], rfl, ?_⟩
    cases text with
    | nil => rfl
    | cons c rest =>
      by_cases first : Digit c
      · have unnamed : ¬names groups (digitValue c) = true :=
          fun named => one ⟨_, _, .digit first (names_iff.mp named)⟩
        rw [insertion?_digit first, pairNumber?_none first two]
        exact if_neg unnamed
      · exact insertion?_plain (mark c rfl) first

/-- All of a text is written, token after token, behind the ordinary characters before it. -/
theorem write_tokenised (proper : found.Proper subject.toList.length) (tokenised : Tokenised groups text row)
    (before : List Char) (fresh : '$' ∉ before) (written : String) :
    write groups subject found written (String.ofList (before ++ text)) =
      some (written ++ String.ofList (before ++ row.flatMap (Token.expand subject.toList.toArray found))) := by
  -- The characters since the last dollar sign have been read as tokens but are not written yet.
  induction tokenised generalizing before written with
  | done => rw [List.flatMap_nil, List.append_nil, write_done fresh]
  | @plain c text row ordinary _ ih =>
    have longer : '$' ∉ before ++ [c] := by simp [fresh, ordinary.symm]
    have whole := ih (before ++ [c]) longer written
    rwa [List.append_assoc, List.append_assoc] at whole
  | @token _ token _ row begins _ ih =>
    obtain ⟨taken, rfl, inserts⟩ := insertion?_begins proper begins
    have onward := ih [] List.not_mem_nil
    simp only [List.nil_append] at onward
    rw [write_next fresh inserts (cut?_right taken _), onward, List.flatMap_cons, String.ofList_append,
      String.ofList_append]
    simp only [String.append_assoc]

/-- Every replacement text is a row of tokens in one way only. At any match that lies in the subject,
as all that are found do, it becomes what these stand for, one after the other, and all of that is
written behind what was written before. -/
theorem write_tokens {replacement : String} (proper : found.Proper subject.toList.length) :
    (∃! row, Tokenised groups replacement.toList row) ∧
    ∀ row, Tokenised groups replacement.toList row →
      expand groups replacement.toList subject.toList.toArray found =
        row.flatMap (Token.expand subject.toList.toArray found) ∧
      ∀ written, write groups subject found written replacement =
        some (written ++ String.ofList (row.flatMap (Token.expand subject.toList.toArray found))) := by
  refine ⟨⟨_, tokenised_iff.mpr rfl, fun row tokenised => tokenised_iff.mp tokenised⟩, fun row tokenised => ?_⟩
  refine ⟨congrArg _ (tokenised_iff.mp tokenised).symm, fun written => ?_⟩
  have whole := write_tokenised proper tokenised [] List.not_mem_nil written
  rwa [List.nil_append, List.nil_append, String.ofList_toList] at whole

/-- With two groups, of which the second took no part, the number twenty names none. -/
theorem write_tokens_absent :
    let found : Match := ⟨⟨1, 3⟩, { closed := [(1, ⟨1, 2⟩)] }⟩
    Tokenised 2 "$20$1é$".toList [.group 2, .char '0', .group 1, .char 'é', .char '$'] ∧
    String.ofList (expand 2 "$20$1é$".toList "aößb".toList.toArray found) = "0öé$" ∧
    write 2 "aößb" found "<" "$20$1é$" = some "<0öé$" := by
  intro found
  have proper : found.Proper "aößb".toList.length :=
    ⟨by decide, by decide, ⟨fun _ member => (List.not_mem_nil member).elim, by decide⟩⟩
  have tokenised : Tokenised 2 "$20$1é$".toList [.group 2, .char '0', .group 1, .char 'é', .char '$'] :=
    tokenised_iff.mpr (by simp [tokens, dollar, names, digitValue])
  have whole := (write_tokens proper).2 _ tokenised
  exact ⟨tokenised, congrArg String.ofList whole.1, whole.2 "<"⟩

end TextTemplate.Replacement
