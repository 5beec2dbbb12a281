import TextTemplate.Expression.Reader
import TextTemplate.Proofs.Text.Trim

/-! The language of filter calls as a grammar, each text with what it denotes. It is
written down without the readers, which have to agree with it. -/
namespace TextTemplate.Expression.Grammar

open Decimal (Numeral applySign digitsValue)
open Text (Blanks)

def Digit (c : Char) : Prop := '0' ≤ c ∧ c ≤ '9'

def NameStart (c : Char) : Prop := 'A' ≤ c ∧ c ≤ 'Z' ∨ 'a' ≤ c ∧ c ≤ 'z' ∨ c = '_' ∨ c = '$'

inductive NameText : List Char → Prop where
  | name (start : NameStart first) (later : ∀ c ∈ rest, NameStart c ∨ Digit c) :
      NameText (first :: rest)

def Digits (text : List Char) : Prop := text ≠ [] ∧ ∀ c ∈ text, Digit c

/-- An optional sign, and whether it makes a number negative. -/
inductive Sign : List Char → Bool → Prop where
  | absent : Sign [] false
  | plus : Sign ['+'] false
  | minus : Sign ['-'] true

/-- The part of a float before its exponent, with all its digits and the number of them
that stand behind the point. -/
inductive Mantissa : List Char → List Char → Nat → Prop where
  | whole (before : Digits digits) : Mantissa digits digits 0
  | pointed (before : Digits digits) (after : ∀ c ∈ places, Digit c) :
      Mantissa (digits ++ '.' :: places) (digits ++ places) places.length
  | fraction (after : Digits places) : Mantissa ('.' :: places) places places.length

inductive WholeText : List Char → Int → Prop where
  | whole (signed : Sign sign negative) (run : Digits digits) :
      WholeText (sign ++ digits) (applySign negative (digitsValue digits))

inductive Exponent : List Char → Int → Prop where
  | absent : Exponent [] 0
  | power (mark : c = 'e' ∨ c = 'E') (scale : WholeText written number) : Exponent (c :: written) number

inductive NumeralText : List Char → Numeral → Prop where
  | numeral (signed : Sign sign negative) (mantissa : Mantissa written digits places)
      (power : Exponent exponent scale) :
      NumeralText (sign ++ written ++ exponent) ⟨negative, digitsValue digits, scale - places⟩

/-- What stands between two quotes: backslash pairs, and characters that are neither a
backslash nor the quote. A pair that is no escape denotes itself. -/
inductive Body (quote : Char) : List Char → List Char → Prop where
  | done : Body quote [] []
  | plain (different : c ≠ '\\') (inside : c ≠ quote) (rest : Body quote written denoted) :
      Body quote (c :: written) (c :: denoted)
  | escaped (special : c = '\\' ∨ c = '\x27' ∨ c = '"') (rest : Body quote written denoted) :
      Body quote ('\\' :: c :: written) (c :: denoted)
  | line (rest : Body quote written denoted) : Body quote ('\\' :: 'n' :: written) ('\n' :: denoted)
  | tab (rest : Body quote written denoted) : Body quote ('\\' :: 't' :: written) ('\t' :: denoted)
  | kept (unknown : c ∉ ['\\', '\x27', '"', 'n', 't']) (rest : Body quote written denoted) :
      Body quote ('\\' :: c :: written) ('\\' :: c :: denoted)

inductive LiteralText : List Char → Value → Prop where
  | string (opens : quote = '\x27' ∨ quote = '"') (body : Body quote written denoted) :
      LiteralText (quote :: written ++ [quote]) (.str (String.ofList denoted))
  | integer (number : Int64) (whole : WholeText written number.toInt) : LiteralText written (.int number)
  | float (numeral : NumeralText written value) (marked : ∃ c ∈ written, c = '.' ∨ c = 'e' ∨ c = 'E') :
      LiteralText written (.float value.toBinary64)

/-- A text behind a literal does not go on with it. A string has its end, whatever follows. -/
def Apart (value : Value) (rest : List Char) : Prop :=
  (∃ content, value = .str content) ∨ ∀ c, rest.head? = some c → ¬ (Digit c ∨ c = '.' ∨ c = 'e' ∨ c = 'E')

/-- Literals with commas between them, and blanks behind each literal and each comma. -/
inductive ListText : List Char → List Value → Prop where
  | last (literal : LiteralText written value) (gap : Blanks after) :
      ListText (written ++ after) [value]
  | more (literal : LiteralText written value) (gap : Blanks after) (next : Blanks before)
      (rest : ListText later values) :
      ListText (written ++ after ++ ',' :: before ++ later) (value :: values)

/-- A name alone, with empty parentheses, or with a list of literals in parentheses. -/
inductive CallText : List Char → Call → Prop where
  | bare (named : NameText name) : CallText name ⟨String.ofList name, []⟩
  | empty (named : NameText name) (gap : Blanks before) (inner : Blanks between) :
      CallText (name ++ before ++ '(' :: between ++ [')']) ⟨String.ofList name, []⟩
  | list (named : NameText name) (gap : Blanks before) (inner : Blanks between)
      (items : ListText written values) :
      CallText (name ++ before ++ '(' :: between ++ written ++ [')']) ⟨String.ofList name, values⟩

end TextTemplate.Expression.Grammar
