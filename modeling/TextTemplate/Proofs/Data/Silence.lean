import TextTemplate.Data.Json

/-! Data sources of every kind, and the keys of each that read as an empty string. -/
namespace TextTemplate.Data

/-- A source of any kind: no data, entries, a function, a document, or an environment. -/
inductive Origin where
  | none
  | entries (held : List (String × Value))
  | function (answer : String → Option Value)
  | document (document : Json)
  | environment (held : Variables)

def Origin.data : Origin → Data
  | .none => Data.none
  | .entries held => ofEntries held
  | .function answer => answer
  | .document json => json.data
  | .environment held => ofVariables held

/-- A key of which a source has nothing to tell: it holds nothing there, or nothing that it can give as a value,
or an empty string. -/
inductive Silent (key : String) : Origin → Prop where
  | none : Silent key .none
  | entry (held : entries.reverse.lookup key = .none ∨ entries.reverse.lookup key = some (.str "")) :
      Silent key (.entries entries)
  | answer (given : answer key = .none ∨ answer key = some (.str "")) : Silent key (.function answer)
  | keyless (other : ∀ members, document ≠ .object members) : Silent key (.document document)
  | member (held : members.lookup key = .none ∨ members.lookup key = some .null ∨
      members.lookup key = some (.string "")) : Silent key (.document (.object members))
  | unnamed (improper : key = "" ∨ '=' ∈ key.toList ∨ '\x00' ∈ key.toList) : Silent key (.environment held)
  | unset (absent : held.reverse.lookup key = .none) : Silent key (.environment held)
  | undecoded (present : held.reverse.lookup key = some bytes) (invalid : ¬ bytes.IsValidUTF8) :
      Silent key (.environment held)
  | empty (present : held.reverse.lookup key = some .empty) : Silent key (.environment held)

theorem getD_eq_empty {answer : Option Value} :
    answer.getD (.str "") = .str "" ↔ answer = .none ∨ answer = some (.str "") := by
  cases answer with
  | none => simp
  | some value => simp

theorem arrayText_ne_nil (items : List Json) : (Json.array items).text ≠ [] := by
  cases items with
  | nil => simp [Json.text]
  | cons item items => simp [Json.text]

theorem objectText_ne_nil (members : List (String × Json)) : (Json.object members).text ≠ [] := by
  cases members with
  | nil => simp [Json.text]
  | cons member members => simp [Json.text]

/-- Arrays and objects are never written as nothing, so that only the empty string gives one. -/
theorem scalar?_eq_empty {document : Json} : document.scalar? = some (.str "") ↔ document = .string "" := by
  cases document with
  | null => simp [Json.scalar?]
  | bool truth => simp [Json.scalar?]
  | number number =>
    cases number with
    | integer value =>
      simp only [Json.scalar?]
      split <;> simp
    | float value => simp [Json.scalar?]
  | string content => simp [Json.scalar?]
  | array items => simp [Json.scalar?, arrayText_ne_nil]
  | object members => simp [Json.scalar?, objectText_ne_nil]

theorem scalar?_eq_none {document : Json} : document.scalar? = .none ↔ document = .null := by
  cases document with
  | number number =>
    cases number with
    | integer value =>
      simp only [Json.scalar?]
      split <;> simp
    | float value => simp [Json.scalar?]
  | _ => simp [Json.scalar?]

theorem isVariable_eq_false {key : String} :
    isVariable key = false ↔ key = "" ∨ '=' ∈ key.toList ∨ '\x00' ∈ key.toList := by
  simp only [isVariable, Bool.and_eq_false_iff, Bool.not_eq_false', String.isEmpty_iff, List.contains_iff_mem, or_assoc]

theorem fromUTF8?_eq_none {bytes : ByteArray} : String.fromUTF8? bytes = .none ↔ ¬ bytes.IsValidUTF8 := by
  rw [String.fromUTF8?]
  split <;> simp [*]

theorem fromUTF8?_eq_empty {bytes : ByteArray} : String.fromUTF8? bytes = some "" ↔ bytes = .empty := by
  rw [String.fromUTF8?]
  split
  · rename_i valid
    rw [Option.some_inj, ← String.toByteArray_inj]
    rfl
  · rename_i invalid
    constructor
    · intro same
      cases same
    · rintro rfl
      exact absurd ByteArray.isValidUTF8_empty invalid

/-- What reads as an empty string is what a source is silent about. -/
theorem read_eq_empty {origin : Origin} {key : String} : origin.data.read key = .str "" ↔ Silent key origin := by
  rw [read, getD_eq_empty]
  cases origin with
  | none => exact ⟨fun _ => .none, fun _ => .inl rfl⟩
  | entries held => exact ⟨.entry, fun (.entry held) => held⟩
  | function answer => exact ⟨.answer, fun (.answer given) => given⟩
  | document json =>
    cases json with
    | object members =>
      simp only [Origin.data, Json.data]
      cases held : members.lookup key with
      | none => exact ⟨fun _ => .member (.inl held), fun _ => .inl rfl⟩
      | some value =>
        rw [Option.bind_some, scalar?_eq_none, scalar?_eq_empty]
        constructor
        · intro silent
          exact .member (.inr (by simpa [held] using silent))
        · intro silent
          cases silent with
          | keyless other => exact absurd rfl (other members)
          | member given => simpa [held] using given
    | _ => exact ⟨fun _ => .keyless nofun, fun _ => .inl rfl⟩
  | environment held =>
    simp only [Origin.data, ofVariables]
    cases proper : isVariable key with
    | true =>
      rw [if_pos rfl]
      cases present : held.reverse.lookup key with
      | none => exact ⟨fun _ => .unset present, fun _ => .inl rfl⟩
      | some bytes =>
        rw [Option.bind_some, Option.map_eq_none_iff, Option.map_eq_some_iff]
        constructor
        · rintro (invalid | ⟨text, decoded, same⟩)
          · exact .undecoded present (fromUTF8?_eq_none.mp invalid)
          · obtain rfl : text = "" := Value.str.inj same
            exact .empty (present.trans (congrArg some (fromUTF8?_eq_empty.mp decoded)))
        · intro silent
          cases silent with
          | unnamed improper => simp [isVariable_eq_false.mpr improper] at proper
          | unset absent => simp [absent] at present
          | undecoded other invalid =>
            obtain rfl := Option.some.inj (present.symm.trans other)
            exact .inl (fromUTF8?_eq_none.mpr invalid)
          | empty other =>
            obtain rfl := Option.some.inj (present.symm.trans other)
            exact .inr ⟨"", fromUTF8?_eq_empty.mpr rfl, rfl⟩
    | false => exact ⟨fun _ => .unnamed (isVariable_eq_false.mp proper), fun _ => .inl rfl⟩

end TextTemplate.Data
