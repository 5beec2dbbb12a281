import TextTemplate.Proofs.Template.Pair
import TextTemplate.Proofs.Template.Places

/-! Delimiters without braces. A body is as long as it can be without a brace, so it ends at
its own closing text exactly when a brace keeps it from running on into the next hole. -/
namespace TextTemplate.Template

open Delimiter (Brace braceless braceless_iff)
open Regex (Enclosed)

/-- The positions at which the two texts are written in a layout. -/
def ownPositions (opening closing : List Char) (base : Nat) : List (List Char × List Char) → List Nat
  | [] => []
  | (gap, body) :: holes =>
    let start := base + gap.length
    let close := start + opening.length + body.length
    start :: close :: ownPositions opening closing (close + closing.length) holes

def innerGaps (holes : List (List Char × List Char)) : List (List Char) := holes.tail.map Prod.fst

variable {opening closing source last : List Char} {holes : List (List Char × List Char)}

theorem le_of_mem_ownPositions {base position : Nat}
    (member : position ∈ ownPositions opening closing base holes) :
    ∃ gap body rest, holes = (gap, body) :: rest ∧ base + gap.length ≤ position := by
  induction holes generalizing base with
  | nil => cases member
  | cons hole rest ih =>
    obtain ⟨gap, body⟩ := hole
    refine ⟨gap, body, rest, rfl, ?_⟩
    rcases List.mem_cons.mp member with rfl | member
    · exact Nat.le_refl _
    · rcases List.mem_cons.mp member with rfl | member
      · omega
      · obtain ⟨_, _, _, _, bound⟩ := ih member
        omega

theorem lt_of_prefix_drop {piece : List Char} {position : Nat} (nonempty : piece ≠ [])
    (stands : piece <+: source.drop position) : position < source.length := by
  have positive := List.length_pos_iff.mpr nonempty
  have room := stands.length_le
  rw [List.length_drop] at room
  omega

theorem drop_of_split {before after : List Char} {base : Nat} (split : source.drop base = before ++ after) :
    source.drop (base + before.length) = after := by
  rw [← List.drop_drop, split, List.drop_left]

/-- The two texts stand nowhere but at their own positions, from a position of the source on. -/
def Sole (opening closing source : List Char) (base : Nat) (holes : List (List Char × List Char)) : Prop :=
  ∀ position, base ≤ position → position < source.length →
    opening <+: source.drop position ∨ closing <+: source.drop position →
    position ∈ ownPositions opening closing base holes

theorem Sole.mem_ownPositions {piece before after : List Char} {base : Nat}
    (sole : Sole opening closing source base holes) (either : piece = opening ∨ piece = closing)
    (nonempty : piece ≠ []) (split : source.drop base = before ++ (piece ++ after)) :
    base + before.length ∈ ownPositions opening closing base holes := by
  have here : piece <+: source.drop (base + before.length) := ⟨after, (drop_of_split split).symm⟩
  refine sole _ (Nat.le_add_right _ _) (lt_of_prefix_drop nonempty here) ?_
  rcases either with rfl | rfl
  · exact .inl here
  · exact .inr here

theorem Sole.tail {gap body : List Char} {base : Nat}
    (sole : Sole opening closing source base ((gap, body) :: holes)) (positive : closing ≠ []) :
    Sole opening closing source (base + gap.length + opening.length + body.length + closing.length) holes := by
  have room := List.length_pos_iff.mpr positive
  intro position above below stands
  rcases List.mem_cons.mp (sole position (by omega) below stands) with same | member
  · omega
  · rcases List.mem_cons.mp member with same | member
    · omega
    · exact member

/-- A brace in the next literal keeps a body from running past its own closing text. -/
theorem body_longest {gap body other : List Char} {base : Nat}
    (closes : closing ≠ []) (braces : ∀ gap ∈ innerGaps ((gap, body) :: holes), ∃ c ∈ gap, Brace c)
    (sole : Sole opening closing source base ((gap, body) :: holes))
    (split : source.drop base = written opening closing ((gap, body) :: holes) last)
    (enclosed : Enclosed opening braceless closing other
      (opening ++ body ++ closing ++ written opening closing holes last)) : other.length ≤ body.length := by
  obtain ⟨_, inside, rest, same⟩ := enclosed
  apply Nat.le_of_not_lt
  intro longer
  have text : source.drop base = (gap ++ opening ++ other) ++ (closing ++ rest) := by
    rw [split, written, same]
    simp
  -- the closing text of a longer body is that of a later hole, and the gap between lies in the body
  have member := sole.mem_ownPositions (.inr rfl) closes text
  simp only [List.length_append, ownPositions, List.mem_cons] at member
  rcases member with start | close | member
  · omega
  · omega
  · obtain ⟨gap', body', holes', rfl, bound⟩ := le_of_mem_ownPositions member
    obtain ⟨c, brace, special⟩ := braces gap' List.mem_cons_self
    have whole : body ++ closing ++ gap' <+:
        body ++ closing ++ written opening closing ((gap', body') :: holes') last :=
      ⟨_, by rw [written, List.append_assoc]⟩
    have part : other <+: body ++ closing ++ written opening closing ((gap', body') :: holes') last :=
      ⟨closing ++ rest, by simpa using same.symm⟩
    have within := List.prefix_of_prefix_length_le whole part (by simp only [List.length_append]; omega)
    exact braceless_iff.mp (inside c (within.subset (List.mem_append_right _ brace))) special

/-- Between literals with a brace each, every body ends at its own closing text. -/
theorem holes_of_braces {base : Nat} (opens : opening ≠ []) (closes : closing ≠ [])
    (nonempty : ∀ hole ∈ holes, hole.2 ≠ []) (plain : ∀ hole ∈ holes, ∀ c ∈ hole.2, ¬ Brace c)
    (braces : ∀ gap ∈ innerGaps holes, ∃ c ∈ gap, Brace c) (sole : Sole opening closing source base holes)
    (split : source.drop base = written opening closing holes last) :
    Holes opening braceless closing (written opening closing holes last) holes last := by
  induction holes generalizing base with
  | nil =>
    refine .done fun before after body same enclosed => ?_
    obtain ⟨_, _, rest, rfl⟩ := enclosed
    have shape : source.drop base = before ++ (opening ++ (body ++ closing ++ rest)) := by
      rw [split, same]
      simp
    cases sole.mem_ownPositions (.inl rfl) opens shape
  | cons hole holes ih =>
    obtain ⟨gap, body⟩ := hole
    have own := List.mem_cons_self (a := (gap, body)) (l := holes)
    have later (hole : List Char × List Char) (member : hole ∈ holes) := List.mem_cons_of_mem (gap, body) member
    have behind : source.drop (base + gap.length + opening.length + body.length + closing.length) =
        written opening closing holes last := by
      have text : source.drop base = (gap ++ opening ++ body ++ closing) ++ written opening closing holes last := by
        rw [split, written]
        simp
      simpa [Nat.add_assoc] using drop_of_split text
    have bracesLater : ∀ gap ∈ innerGaps holes, ∃ c ∈ gap, Brace c := by
      intro gap member
      cases holes with
      | nil => cases member
      | cons hole holes => exact braces gap (List.mem_cons_of_mem _ member)
    have rest := ih (fun hole member => nonempty hole (later hole member))
      (fun hole member => plain hole (later hole member)) bracesLater (sole.tail closes) behind
    refine .next rfl ?_ (nonempty _ own) (fun c member => braceless_iff.mpr (plain _ own c member)) ?_ rest
    · intro before after other same sooner enclosed
      obtain ⟨_, _, finish, rfl⟩ := enclosed
      have shape : source.drop base = before ++ (opening ++ (other ++ closing ++ finish)) := by
        rw [split, same]
        simp
      obtain ⟨gap', body', holes', same', bound⟩ := le_of_mem_ownPositions (sole.mem_ownPositions (.inl rfl) opens shape)
      cases same'
      omega
    · intro other enclosed
      exact body_longest closes braces sole split enclosed

theorem enclosed_across {body gap body' : List Char} (nonempty : body ≠ [])
    (inside : ∀ c ∈ body, braceless.has c = true) (closePlain : ∀ c ∈ closing, ¬ Brace c)
    (gapPlain : ∀ c ∈ gap, ¬ Brace c) (openPlain : ∀ c ∈ opening, ¬ Brace c)
    (inside' : ∀ c ∈ body', braceless.has c = true) (later : List Char) :
    Enclosed opening braceless closing (body ++ closing ++ gap ++ opening ++ body')
      (opening ++ body ++ closing ++ (gap ++ (opening ++ body' ++ closing ++ later))) := by
  refine ⟨?_, ?_, later, by simp⟩
  · simp [nonempty]
  · intro c member
    simp only [List.mem_append] at member
    rcases member with (((member | member) | member) | member) | member
    · exact inside c member
    · exact braceless_iff.mpr (closePlain c member)
    · exact braceless_iff.mpr (gapPlain c member)
    · exact braceless_iff.mpr (openPlain c member)
    · exact inside' c member

/-- A body that runs up to a literal without braces would run on behind it. -/
theorem Holes.braces {text : List Char} (cut : Holes opening braceless closing text holes last)
    (openPlain : ∀ c ∈ opening, ¬ Brace c) (closePlain : ∀ c ∈ closing, ¬ Brace c) :
    ∀ gap ∈ innerGaps holes, ∃ c ∈ gap, Brace c := by
  induction cut with
  | done _ =>
    intro gap member
    cases member
  | @next text gap body later holes last whole earlier nonempty inside longest rest ih =>
    cases rest with
    | done _ =>
      intro gap member
      cases member
    | @next _ gap' body' later' holes' _ whole' _ nonempty' inside' _ _ =>
      intro other member
      rcases List.mem_cons.mp member with rfl | member
      · apply Classical.byContradiction
        intro free
        have plain : ∀ c ∈ other, ¬ Brace c := fun c member brace => free ⟨c, member, brace⟩
        have enclosed := enclosed_across nonempty inside closePlain plain openPlain inside' later'
        rw [← whole'] at enclosed
        have short := longest _ enclosed
        have positive := List.length_pos_iff.mpr nonempty'
        simp only [List.length_append] at short
        omega
      · exact ih other member

theorem holes_unique {holes' : List (List Char × List Char)} {last' : List Char} {position : Nat}
    (same : written opening closing holes last = written opening closing holes' last')
    (there : placesFrom opening closing position holes = placesFrom opening closing position holes') :
    holes = holes' := by
  induction holes generalizing holes' position with
  | nil =>
    cases holes' with
    | nil => rfl
    | cons hole' holes' => cases there
  | cons hole holes ih =>
    cases holes' with
    | nil => cases there
    | cons hole' holes' =>
      obtain ⟨gap, body⟩ := hole
      obtain ⟨gap', body'⟩ := hole'
      simp only [placesFrom, List.cons.injEq, Prod.mk.injEq] at there
      obtain ⟨⟨start, rfl, stop⟩, there⟩ := there
      obtain ⟨more, rfl, rest⟩ := exists_gap same (by omega)
      obtain rfl : more = [] := by
        rw [Text.byteLength_append] at start
        exact eq_nil_of_byteLength (by omega)
      simp only [List.append_nil, List.nil_append] at there rest ⊢
      rw [ih (List.append_cancel_left rest) there]

/-- A layout of expressions between two texts without braces, which stand nowhere else. -/
structure Separate (opening closing : List Char) (holes : List (List Char × List Char)) (last : List Char) :
    Prop where
  opens : opening ≠ []
  closes : closing ≠ []
  openPlain : ∀ c ∈ opening, ¬ Brace c
  closePlain : ∀ c ∈ closing, ¬ Brace c
  nonempty : ∀ hole ∈ holes, hole.2 ≠ []
  plain : ∀ hole ∈ holes, ∀ c ∈ hole.2, ¬ Brace c
  readable : ∀ hole ∈ holes, ∃ expression, Expression.read hole.2 = .ok expression
  sole : Sole opening closing (written opening closing holes last) 0 holes

/-- Each placeholder of a layout ends at its own closing text exactly when every literal
between two of them holds a brace; then the layout is what the template shows. -/
theorem shows_iff_braces {opening closing : String} {holes : List (List Char × List Char)} {last : List Char}
    {delimiter : Delimiter} (separate : Separate opening.toList closing.toList holes last)
    (paired : Delimiter.pair opening closing = .ok delimiter) (filters : FilterTable) :
    ((∀ gap ∈ innerGaps holes, ∃ c ∈ gap, Brace c) → ∃ template,
      compile delimiter filters (String.ofList (written opening.toList closing.toList holes last)) = .ok template ∧
        template.Shows opening.toList closing.toList holes last) ∧
    ((∃ template,
      compile delimiter filters (String.ofList (written opening.toList closing.toList holes last)) = .ok template ∧
        template.places = placesFrom opening.toList closing.toList 0 holes) →
      ∀ gap ∈ innerGaps holes, ∃ c ∈ gap, Brace c) := by
  have program := Delimiter.pair_program paired
  constructor
  · intro braces
    have cut := holes_of_braces separate.opens separate.closes separate.nonempty separate.plain braces
      separate.sole List.drop_zero
    have text := String.toList_ofList (l := written opening.toList closing.toList holes last)
    obtain ⟨template, compiled⟩ := exists_compile program (text.symm ▸ cut) separate.readable filters
    exact ⟨template, compiled, (shows_of_compile program (text.symm ▸ cut) compiled).2⟩
  · rintro ⟨template, compiled, there⟩
    obtain ⟨holes', last', cut⟩ := exists_holes opening.toList braceless closing.toList
      (String.ofList (written opening.toList closing.toList holes last)).toList
    obtain ⟨_, shows⟩ := shows_of_compile program cut compiled
    have same := cut.written_eq
    rw [String.toList_ofList] at same
    obtain rfl := holes_unique same.symm (there.symm.trans shows.places)
    exact cut.braces separate.openPlain separate.closePlain

private theorem exists_tag_pair : ∃ delimiter, Delimiter.pair "<%=" "%>" = .ok delimiter := by
  have read : Regex.Pattern.read {} (Delimiter.escape "<%=" ++ contentPattern ++ Delimiter.escape "%>").toList =
      .ok (Regex.between "<%=".toList braceless "%>".toList) := rfl
  rw [Delimiter.pair, Delimiter.ofPattern, Regex.compile, read]
  exact ⟨_, dif_pos (by decide)⟩

private theorem separate_tags {gap : List Char} (short : gap = [] ∨ gap = ['\x7b']) :
    Separate "<%=".toList "%>".toList [([], ['a']), (gap, ['b'])] [] := by
  constructor
  · decide
  · decide
  · simp [Brace]
  · simp [Brace]
  · simp
  · simp [Brace]
  · intro hole member
    rcases List.mem_cons.mp member with rfl | member
    · exact ⟨⟨"a", []⟩, rfl⟩
    · obtain rfl := List.mem_singleton.mp member
      exact ⟨⟨"b", []⟩, rfl⟩
  · rcases short with rfl | rfl
    · have own : ∀ position < 12, "<%=".toList <+: "<%=a%><%=b%>".toList.drop position ∨
          "%>".toList <+: "<%=a%><%=b%>".toList.drop position → position ∈ [0, 4, 6, 10] := by decide
      exact fun position _ below => own position below
    · have own : ∀ position < 13, "<%=".toList <+: "<%=a%>\x7b<%=b%>".toList.drop position ∨
          "%>".toList <+: "<%=a%>\x7b<%=b%>".toList.drop position → position ∈ [0, 4, 7, 11] := by decide
      exact fun position _ below => own position below

theorem shows_iff_braces_tags : ∃ delimiter template, Delimiter.pair "<%=" "%>" = .ok delimiter ∧
    compile delimiter ∅ "<%=a%>\x7b<%=b%>" = .ok template ∧
      template.places = [(0, ['a'], 6), (7, ['b'], 13)] := by
  obtain ⟨delimiter, paired⟩ := exists_tag_pair
  have braces : ∀ gap ∈ innerGaps [([], ['a']), (['\x7b'], ['b'])], ∃ c ∈ gap, Brace c := by
    simp [innerGaps, Brace]
  obtain ⟨template, compiled, shows⟩ := (shows_iff_braces (separate_tags (.inr rfl)) paired ∅).1 braces
  exact ⟨delimiter, template, paired, compiled, shows.places⟩

/-- With no brace between them two placeholders are taken for one. -/
theorem places_run_on : ∃ delimiter template, Delimiter.pair "<%=" "%>" = .ok delimiter ∧
    Separate "<%=".toList "%>".toList [([], ['a']), ([], ['b'])] [] ∧
      compile delimiter ∅ "<%=a%><%=b%>" = .ok template ∧ template.places = [(0, "a%><%=b".toList, 12)] ∧
        template.places ≠ placesFrom "<%=".toList "%>".toList 0 [([], ['a']), ([], ['b'])] := by
  obtain ⟨delimiter, paired⟩ := exists_tag_pair
  have inside : ∀ c ∈ "a%><%=b".toList, braceless.has c = true := by
    simp [braceless_iff, Brace]
  have read : Expression.read "a%><%=b".toList = .ok ⟨"a%><%=b", []⟩ := rfl
  have compiled : compile delimiter ∅ "<%=a%><%=b%>" =
      .ok ⟨_, [.placeholder ⟨0, 12, "a%><%=b", ⟨"a%><%=b", []⟩⟩], ∅⟩ :=
    compile_single (Delimiter.pair_program paired) (by decide) inside read ∅
  exact ⟨delimiter, _, paired, separate_tags (.inl rfl), compiled, rfl, by decide⟩

end TextTemplate.Template
