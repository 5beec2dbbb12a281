import TextTemplate.Proofs.Filter.BuiltinTexts
import TextTemplate.Template.Render

/-! The filters that set the case of a text. On ASCII text each of them sets the first character
to one case and the characters behind it to one case, whatever case they had. In a chain of such
filters the last one therefore decides alone. -/
namespace TextTemplate

/-- The two cases that an ASCII letter has. -/
inductive LetterCase where
  | upper
  | lower

inductive Casing where
  | upper
  | lower
  | capitalize

def Ascii (text : List Char) : Prop := ∀ c ∈ text, c.toNat < 128

variable {text rest : List Char}

namespace LetterCase

/-- A character in a case. What is no ASCII letter has none and stays as it is. -/
def set : LetterCase → Char → Char
  | .upper => Char.toUpper
  | .lower => Char.toLower

/-- The codes of ASCII are few enough to be decided one by one. -/
theorem of_ascii {property : Char → Prop} {c : Char} (ascii : c.toNat < 128)
    (codes : ∀ code < 128, property (Char.ofNat code)) : property c := by
  have own := codes c.toNat ascii
  rwa [Char.ofNat_toNat] at own

/-- The case that a character had before leaves no trace. -/
theorem set_set (chosen other : LetterCase) {c : Char} (ascii : c.toNat < 128) :
    chosen.set (other.set c) = chosen.set c := by
  apply of_ascii ascii
  cases chosen with
  | upper =>
    cases other with
    | upper => decide
    | lower => decide
  | lower =>
    cases other with
    | upper => decide
    | lower => decide

theorem set_ascii (chosen : LetterCase) {c : Char} (ascii : c.toNat < 128) : (chosen.set c).toNat < 128 := by
  apply of_ascii ascii
  cases chosen with
  | upper => decide
  | lower => decide

/-- A text with its first character in one case and all others in another. -/
def setText (front behind : LetterCase) : List Char → List Char
  | [] => []
  | c :: rest => front.set c :: rest.map behind.set

theorem setText_setText (front behind front' behind' : LetterCase) (ascii : Ascii text) :
    setText front behind (setText front' behind' text) = setText front behind text := by
  cases text with
  | nil => rfl
  | cons c rest =>
    obtain ⟨own, ascii⟩ := List.forall_mem_cons.mp ascii
    rw [setText, setText, setText, List.map_map, set_set _ _ own]
    exact congrArg (_ :: ·) (List.map_congr_left fun d member => set_set behind behind' (ascii d member))

theorem setText_ascii (front behind : LetterCase) (ascii : Ascii text) : Ascii (setText front behind text) := by
  cases text with
  | nil => exact ascii
  | cons c rest =>
    obtain ⟨own, ascii⟩ := List.forall_mem_cons.mp ascii
    refine List.forall_mem_cons.mpr ⟨front.set_ascii own, fun d member => ?_⟩
    obtain ⟨e, there, rfl⟩ := List.mem_map.mp member
    exact behind.set_ascii (ascii e there)

end LetterCase

namespace Casing

def name : Casing → String
  | .upper => "upper"
  | .lower => "lower"
  | .capitalize => "capitalize"

def transform : Casing → List Char → List Char
  | .upper => Unicode.upper
  | .lower => Unicode.lower
  | .capitalize => Unicode.capitalize

def filter : Casing → Filter
  | .upper => Builtin.upper
  | .lower => Builtin.lower
  | .capitalize => Builtin.capitalize

def front : Casing → LetterCase
  | .upper | .capitalize => .upper
  | .lower => .lower

def behind : Casing → LetterCase
  | .upper => .upper
  | .lower | .capitalize => .lower

theorem find?_name (casing : Casing) : Builtin.find? casing.name = some casing.filter := by
  cases casing <;> rfl

theorem upper_ascii (ascii : Ascii text) : Unicode.upper text = text.map Char.toUpper := by
  induction text with
  | nil => rfl
  | cons c text ih =>
    obtain ⟨own, ascii⟩ := List.forall_mem_cons.mp ascii
    have tail : text.flatMap Unicode.upperChar = text.map Char.toUpper := ih ascii
    rw [Unicode.upper, List.flatMap_cons, tail, Unicode.upperChar, if_pos own]
    rfl

/-- The capital sigma is no ASCII character, so it does not matter what stands before. -/
theorem lowerAfter_ascii (ascii : Ascii text) (before : List Char) :
    Unicode.lowerAfter before text = text.map Char.toLower := by
  induction text generalizing before with
  | nil => rfl
  | cons c text ih =>
    obtain ⟨own, ascii⟩ := List.forall_mem_cons.mp ascii
    have other : c ≠ 'Σ' := by
      rintro rfl
      exact absurd own (by decide)
    rw [Unicode.lowerAfter, if_neg other, Unicode.lowerChar, if_pos own, ih ascii]
    rfl

theorem transform_ascii (casing : Casing) (ascii : Ascii text) :
    casing.transform text = LetterCase.setText casing.front casing.behind text := by
  cases text with
  | nil => cases casing <;> rfl
  | cons c rest =>
    obtain ⟨own, tail⟩ := List.forall_mem_cons.mp ascii
    cases casing with
    | upper => exact upper_ascii ascii
    | lower => exact lowerAfter_ascii ascii []
    | capitalize =>
      have lowered : Unicode.lower rest = rest.map Char.toLower := lowerAfter_ascii tail []
      rw [transform, Unicode.capitalize, Unicode.upperChar, if_pos own, lowered]
      rfl

theorem ascii_transform (casing : Casing) (ascii : Ascii text) : Ascii (casing.transform text) := by
  rw [casing.transform_ascii ascii]
  exact LetterCase.setText_ascii _ _ ascii

theorem transform_transform (second first : Casing) (ascii : Ascii text) :
    second.transform (first.transform text) = second.transform text := by
  rw [second.transform_ascii (first.ascii_transform ascii), first.transform_ascii ascii,
    LetterCase.setText_setText _ _ _ _ ascii, second.transform_ascii ascii]

variable {value : Value}

def result (casing : Casing) (value : Value) : Value := .str (String.ofList (casing.transform value.text.toList))

theorem text_result (casing : Casing) (value : Value) :
    (casing.result value).text.toList = casing.transform value.text.toList := String.toList_ofList

theorem filter_eq (casing : Casing) (value : Value) (arguments : List Value) :
    casing.filter value arguments = .ok (casing.result value) := by
  cases casing <;> rfl

theorem result_ascii (casing : Casing) (ascii : Ascii value.text.toList) : Ascii (casing.result value).text.toList := by
  rw [text_result]
  exact casing.ascii_transform ascii

theorem result_result (second first : Casing) (ascii : Ascii value.text.toList) :
    second.result (first.result value) = second.result value := by
  rw [result, text_result, second.transform_transform first ascii, result]

theorem filter_filter (second first : Casing) (ascii : Ascii value.text.toList) (arguments others : List Value) :
    (first.filter value arguments >>= (second.filter · others)) = second.filter value others := by
  calc (first.filter value arguments >>= (second.filter · others))
      = second.filter (first.result value) others := by rw [first.filter_eq]; rfl
    _ = .ok (second.result (first.result value)) := second.filter_eq _ _
    _ = .ok (second.result value) := by rw [second.result_result first ascii]
    _ = second.filter value others := (second.filter_eq _ _).symm

end Casing

namespace Template

variable {find? : String → Option Filter} {position : Nat} {value : Value} {calls : List Call} {last : Call}

/-- A call by the name of a filter that sets the case, where that name finds the built-in filter. -/
structure Recases (find? : String → Option Filter) (call : Call) (casing : Casing) : Prop where
  named : call.name = casing.name
  builtin : find? call.name = Builtin.find? call.name

theorem applyCalls_recases {call : Call} {casing : Casing} (recases : Recases find? call casing) :
    applyCalls find? position value (call :: calls) = applyCalls find? position (casing.result value) calls := by
  have resolved : find? call.name = some casing.filter := by
    rw [recases.builtin, recases.named, casing.find?_name]
  rw [applyCalls, resolved]
  simp only [casing.filter_eq]

theorem applyCalls_result {casing : Casing} (ascii : Ascii value.text.toList)
    (earlier : ∀ call ∈ calls, ∃ casing, Recases find? call casing) (recases : Recases find? last casing) :
    applyCalls find? position value (calls ++ [last]) = .ok (casing.result value) := by
  induction calls generalizing value with
  | nil => exact applyCalls_recases recases
  | cons call calls ih =>
    obtain ⟨⟨first, own⟩, earlier⟩ := List.forall_mem_cons.mp earlier
    rw [List.cons_append, applyCalls_recases own, ih (first.result_ascii ascii) earlier,
      casing.result_result first ascii]

/-- For a value with an ASCII text a chain of calls that set the case gives what its last call gives
alone, whatever the arguments. Each of these filters absorbs itself and any other before it. -/
theorem applyCalls_eq_last (position : Nat) (ascii : Ascii value.text.toList)
    (cased : ∀ call ∈ calls ++ [last], ∃ casing, Recases find? call casing) :
    (∃ result, applyCalls find? position value (calls ++ [last]) = .ok result ∧ Ascii result.text.toList ∧
      ∀ arguments, applyCalls find? position value [⟨last.name, arguments⟩] = .ok result) ∧
    ∀ (first second : Casing) (arguments others : List Value),
      (first.filter value arguments >>= (second.filter · others)) = second.filter value others := by
  obtain ⟨casing, recases⟩ := cased last (by simp)
  have earlier : ∀ call ∈ calls, ∃ casing, Recases find? call casing :=
    fun call member => cased call (List.mem_append_left _ member)
  refine ⟨⟨casing.result value, applyCalls_result ascii earlier recases, casing.result_ascii ascii, ?_⟩, ?_⟩
  · intro arguments
    exact applyCalls_recases ⟨recases.named, recases.builtin⟩
  · intro first second arguments others
    exact second.filter_filter first ascii arguments others

/-- A chain that turns every letter over before its last call sets them. -/
theorem applyCalls_eq_last_capitalize :
    applyCalls Registry.withBuiltins.find? 0 (.str "hELLO wORLD")
      [⟨"upper", [.bool true]⟩, ⟨"capitalize", []⟩, ⟨"lower", []⟩, ⟨"capitalize", [.int 1]⟩] =
        .ok (.str "Hello world") := by
  have builtin (name : String) : Registry.withBuiltins.find? name = Builtin.find? name :=
    Registry.find?_withBuiltins name
  have ascii : Ascii (Value.str "hELLO wORLD").text.toList := by simp [Ascii, Value.text]
  have cased : ∀ call ∈ [⟨"upper", [.bool true]⟩, ⟨"capitalize", []⟩, ⟨"lower", []⟩] ++ [⟨"capitalize", [.int 1]⟩],
      ∃ casing, Recases Registry.withBuiltins.find? call casing := by
    simp only [List.cons_append, List.nil_append, List.forall_mem_cons]
    exact ⟨⟨.upper, rfl, builtin _⟩, ⟨.capitalize, rfl, builtin _⟩, ⟨.lower, rfl, builtin _⟩,
      ⟨.capitalize, rfl, builtin _⟩, by simp⟩
  have single : applyCalls Registry.withBuiltins.find? 0 (.str "hELLO wORLD") [⟨"capitalize", []⟩] =
      .ok (.str "Hello world") := by
    rw [applyCalls, builtin]
    rfl
  obtain ⟨⟨result, whole, _, alone⟩, _⟩ := applyCalls_eq_last 0 ascii cased
  rw [← single, alone]
  exact whole

end Template

end TextTemplate
