import TextTemplate.Proofs.Template.Pair
import TextTemplate.Proofs.Template.Segments

/-! Placeholders between two texts are those of a plain scan of the source: the first byte
behind the last placeholder at which the opening text, a body without braces and the closing
text stand in a row. A closing text that begins with a brace leaves one body at most. -/
namespace TextTemplate.Template

open Delimiter (Brace braceless braceless_iff)
open Regex (Enclosed)
open Text (byteLength)

/-- The opening text, a body without braces and the closing text stand at a byte of the source. -/
def Stands (opening closing source : List Char) : Place → Prop
  | (start, raw, stop) => raw ≠ [] ∧ (∀ c ∈ raw, ¬ Brace c) ∧
    ∃ before after, source = before ++ opening ++ raw ++ closing ++ after ∧
      start = byteLength before ∧ stop = byteLength (before ++ opening ++ raw ++ closing)

/-- The scan from a byte on takes the first place there is, and goes on behind it. -/
inductive Scan (opening closing source : List Char) : Nat → List Place → Prop where
  | done (nothing : ∀ start raw stop, offset ≤ start → ¬ Stands opening closing source (start, raw, stop)) :
      Scan opening closing source offset []
  | next (behind : offset ≤ start) (stands : Stands opening closing source (start, raw, stop))
      (least : ∀ earlier other finish, offset ≤ earlier → earlier < start →
        ¬ Stands opening closing source (earlier, other, finish))
      (rest : Scan opening closing source stop later) :
      Scan opening closing source offset ((start, raw, stop) :: later)

variable {opening closing source : List Char}

theorem stands_iff {before text raw : List Char} {start stop : Nat} (whole : source = before ++ text)
    (behind : byteLength before ≤ start) :
    Stands opening closing source (start, raw, stop) ↔
      ∃ gap after, text = gap ++ after ∧ Enclosed opening braceless closing raw after ∧
        start = byteLength before + byteLength gap ∧ stop = start + byteLength (opening ++ raw ++ closing) := by
  constructor
  · rintro ⟨nonempty, inside, front, after, same, rfl, rfl⟩
    have shape : before ++ text = front ++ (opening ++ raw ++ closing ++ after) := by
      rw [← whole, same]
      simp
    obtain ⟨gap, rfl, rfl⟩ := exists_gap shape behind
    refine ⟨gap, _, rfl, ⟨nonempty, fun c member => braceless_iff.mpr (inside c member), after, rfl⟩, ?_, ?_⟩
    · rw [Text.byteLength_append]
    · simp only [Text.byteLength_append, Nat.add_assoc]
  · rintro ⟨gap, after, rfl, ⟨nonempty, inside, later, rfl⟩, rfl, rfl⟩
    refine ⟨nonempty, fun c member => braceless_iff.mp (inside c member), before ++ gap, later, ?_, ?_, ?_⟩
    · rw [whole]
      simp
    · rw [Text.byteLength_append]
    · simp only [Text.byteLength_append, Nat.add_assoc]

theorem Holes.scan {before text last : List Char} {holes : List (List Char × List Char)}
    (cut : Holes opening braceless closing text holes last) (whole : source = before ++ text) :
    Scan opening closing source (byteLength before) (placesFrom opening closing (byteLength before) holes) := by
  induction cut generalizing before with
  | done nothing =>
    refine .done fun start raw stop behind stands => ?_
    obtain ⟨gap, after, same, enclosed, _⟩ := (stands_iff whole behind).mp stands
    exact nothing gap after raw same enclosed
  | @next text gap body later holes last shape earlier nonempty inside longest _ ih =>
    have stop : byteLength before + byteLength gap + byteLength (opening ++ body ++ closing) =
        byteLength (before ++ gap ++ opening ++ body ++ closing) := by
      simp only [Text.byteLength_append, Nat.add_assoc]
    refine .next (Nat.le_add_right _ _) ?_ ?_ ?_
    · exact (stands_iff whole (Nat.le_add_right _ _)).mpr ⟨gap, _, shape, ⟨nonempty, inside, later, rfl⟩, rfl, rfl⟩
    · intro start other finish behind sooner stands
      obtain ⟨front, after, same, enclosed, rfl, _⟩ := (stands_iff whole behind).mp stands
      obtain ⟨more, longer, _⟩ := exists_gap (same.symm.trans shape) (by omega)
      refine earlier front after other same ?_ enclosed
      cases more with
      | nil =>
        rw [longer, List.append_nil] at sooner
        exact absurd sooner (Nat.lt_irrefl _)
      | cons c more =>
        rw [longer, List.length_append, List.length_cons]
        omega
    · rw [stop]
      exact ih (by rw [whole, shape]; simp)

/-- Bodies in front of a closing text that begins with a brace end at the first brace. -/
theorem Stands.unique (brace : ∃ c rest, closing = c :: rest ∧ Brace c)
    (first : Stands opening closing source (start, raw, stop))
    (second : Stands opening closing source (start, raw', stop')) : raw = raw' ∧ stop = stop' := by
  obtain ⟨c, tail, rfl, brace⟩ := brace
  obtain ⟨_, inside, before, after, same, rfl, rfl⟩ := first
  obtain ⟨_, inside', before', after', same', bytes, rfl⟩ := second
  have split : before ++ (opening ++ raw ++ c :: tail ++ after) =
      before' ++ (opening ++ raw' ++ c :: tail ++ after') := by
    simpa using same.symm.trans same'
  obtain ⟨gap, longer, rest⟩ := exists_gap split (Nat.le_of_eq bytes)
  obtain rfl : gap = [] := by
    rw [longer, Text.byteLength_append] at bytes
    exact eq_nil_of_byteLength (by omega)
  rw [List.append_nil] at longer
  have bodies : raw ++ c :: (tail ++ after) = raw' ++ c :: (tail ++ after') := by simpa using rest
  have ends (rest : List Char) : Text.EndsRun braceless.has (c :: rest) :=
    Text.endsRun_cons (Bool.eq_false_iff.mpr fun has => braceless_iff.mp has brace) rest
  -- either body is the run without braces behind the opening text
  have run := congrArg (List.takeWhile braceless.has) bodies
  rw [Text.takeWhile_run (fun d member => braceless_iff.mpr (inside d member)) (ends _),
    Text.takeWhile_run (fun d member => braceless_iff.mpr (inside' d member)) (ends _)] at run
  subst run longer
  exact ⟨rfl, rfl⟩

theorem Scan.unique (brace : ∃ c rest, closing = c :: rest ∧ Brace c)
    (scan : Scan opening closing source offset found) (again : Scan opening closing source offset found') :
    found = found' := by
  induction scan generalizing found' with
  | done nothing =>
    cases again with
    | done _ => rfl
    | next behind stands _ _ => exact absurd stands (nothing _ _ _ behind)
  | next behind stands least _ ih =>
    cases again with
    | done nothing => exact absurd stands (nothing _ _ _ behind)
    | next behind' stands' least' rest' =>
      obtain rfl := Nat.le_antisymm (Nat.le_of_not_lt fun sooner => least _ _ _ behind' sooner stands')
        (Nat.le_of_not_lt fun sooner => least' _ _ _ behind sooner stands)
      obtain ⟨rfl, rfl⟩ := stands.unique brace stands'
      rw [ih rest']

/-- Under the standard delimiter and under every pair whose closing text begins with a brace,
a scan of the source gives the places of the placeholders and no others, and the source
outside of them is literal. -/
theorem places_eq_scan {opening closing source : String} {delimiter : Delimiter} {filters : FilterTable}
    {template : Template}
    (paired : Delimiter.pair opening closing = .ok delimiter ∨
      opening = "$\x7b" ∧ closing = "\x7d" ∧ delimiter = .standard)
    (brace : ∃ c rest, closing.toList = c :: rest ∧ Brace c)
    (compiled : compile delimiter filters source = .ok template) :
    (∀ found, Scan opening.toList closing.toList source.toList 0 found ↔ found = template.places) ∧
      template.source = source ∧
      (template.isStatic = true ∨ Covers 0 template.segments source.toList) := by
  have pair : Delimiter.pair opening closing = .ok delimiter := by
    rcases paired with paired | ⟨rfl, rfl, rfl⟩
    · exact paired
    · exact Delimiter.pair_standard
  obtain ⟨holes, last, cut⟩ := exists_holes opening.toList braceless closing.toList source.toList
  obtain ⟨sourceEq, shows⟩ := shows_of_compile (Delimiter.pair_program pair) cut compiled
  have own : Scan opening.toList closing.toList source.toList (byteLength [])
      (placesFrom opening.toList closing.toList (byteLength []) holes) := cut.scan rfl
  have scan : Scan opening.toList closing.toList source.toList 0 template.places := shows.places ▸ own
  refine ⟨fun found => ⟨fun other => other.unique brace scan, ?_⟩, sourceEq, sourceEq ▸ shows.covers⟩
  rintro rfl
  exact scan

theorem places_eq_scan_nested : ∃ template, compile .standard ∅ "$\x7b$\x7bx\x7d\x7d" = .ok template ∧
    template.places = [(2, ['x'], 6)] ∧
      ∀ found, Scan "$\x7b".toList "\x7d".toList "$\x7b$\x7bx\x7d\x7d".toList 0 found ↔ found = template.places := by
  have compiled : compile .standard ∅ "$\x7b$\x7bx\x7d\x7d" =
      .ok ⟨_, [.literal 0 "$\x7b", .placeholder ⟨2, 6, "x", ⟨"x", []⟩⟩, .literal 6 "\x7d"], _⟩ :=
    compile_of_segments (by decide +kernel)
  exact ⟨_, compiled, rfl, (places_eq_scan (.inr ⟨rfl, rfl, rfl⟩) ⟨'\x7d', [], rfl, .inr rfl⟩ compiled).1⟩

end TextTemplate.Template
