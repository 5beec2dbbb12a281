import TextTemplate.Proofs.Expression.Neutral
import TextTemplate.Proofs.Text.Bytes

/-! The segments of a pipeline as pieces of its source. With a pipe between each two they are the
source again, they are cut at the pipes outside of literals and at no others, and every cut is a
character boundary. A literal that is never closed keeps all pipes behind its quote in the last
segment. -/
namespace TextTemplate.Expression.Pipeline

open Text (Rest Slice byteLength)

def segmentsFrom (state : Quoting) (content : List Char) : List (List Char) :=
  (splitFrom state content).1 :: (splitFrom state content).2

def segments (content : List Char) : List (List Char) := segmentsFrom .outside content

/-- The bytes between which each segment stands. The current segment began at `start`, and the
next character begins at `offset`. -/
def boundsFrom (state : Quoting) (start offset : Nat) : List Char → List (Nat × Nat)
  | [] => [(start, offset)]
  | c :: rest =>
    if state.cuts c then (start, offset) :: boundsFrom .outside (offset + 1) (offset + c.utf8Size) rest
    else boundsFrom (state.step c) start (offset + c.utf8Size) rest

def bounds (content : List Char) : List (Nat × Nat) := boundsFrom .outside 0 0 content

/-- A quote that opens a literal, and no text behind it closes the literal. -/
structure Unclosed (before : List Char) (quote : Char) (rest : List Char) : Prop where
  outside : Quoting.run .outside before = .outside
  opens : isQuote quote = true
  inside : ∀ inner outer, rest = inner ++ outer → Quoting.run (.inside quote) inner ≠ .outside

/-- A content in segments that stand between bytes of it. -/
structure Lossless (content : String) (parts : List (List Char)) (bounds : List (Nat × Nat)) : Prop where
  nonempty : parts ≠ []
  joins : String.intercalate "|" (parts.map String.ofList) = content
  slices : List.Forall₂ (fun bound part => Slice content bound.1 bound.2 (String.ofList part)) bounds parts
  /-- Every segment but the last ends at a pipe outside of literals, and at each of these one ends. -/
  cuts : ∀ stop, stop ∈ bounds.dropLast.map Prod.snd ↔
    ∃ before after, content.toList = before ++ '|' :: after ∧ stop = byteLength before ∧
      Quoting.run .outside before = .outside
  uncut : ∀ part ∈ parts, Uncut .outside part
  closed : ∀ part ∈ parts.dropLast, Quoting.run .outside part = .outside
  unclosed : ∀ before quote rest, content.toList = before ++ quote :: rest → Unclosed before quote rest →
    ∃ shut last, segments before = shut ++ [last] ∧ parts = shut ++ [last ++ quote :: rest]

variable {state : Quoting} {c : Char} {content first rest text tail : List Char} {later : List (List Char)}

theorem segmentsFrom_cut (cut : state.cuts c = true) (rest : List Char) :
    segmentsFrom state (c :: rest) = [] :: segmentsFrom .outside rest := by
  simp [segmentsFrom, splitFrom, cut]

theorem segmentsFrom_step (apart : state.cuts c = false) (rest : List Char) :
    segmentsFrom state (c :: rest) = (c :: (splitFrom (state.step c) rest).1) :: (splitFrom (state.step c) rest).2 := by
  simp [segmentsFrom, splitFrom, apart]

theorem boundsFrom_cut {start offset : Nat} (cut : state.cuts c = true) (rest : List Char) :
    boundsFrom state start offset (c :: rest) =
      (start, offset) :: boundsFrom .outside (offset + 1) (offset + c.utf8Size) rest := by
  rw [boundsFrom, if_pos cut]

theorem boundsFrom_step {start offset : Nat} (apart : state.cuts c = false) (rest : List Char) :
    boundsFrom state start offset (c :: rest) = boundsFrom (state.step c) start (offset + c.utf8Size) rest := by
  rw [boundsFrom, apart]
  rfl

theorem boundsFrom_ne_nil (state : Quoting) (start offset : Nat) (content : List Char) :
    boundsFrom state start offset content ≠ [] := by
  induction content generalizing state start offset with
  | nil => exact List.cons_ne_nil _ _
  | cons c content ih =>
    rw [boundsFrom]
    split
    · exact List.cons_ne_nil _ _
    · exact ih _ _ _

/-- The segments stand between their bytes. Of the current one `pending` is passed already. -/
theorem slices_boundsFrom {source : String} {start : Nat} (state : Quoting) (pending : List Char)
    (remains : Rest source start (pending ++ content)) :
    List.Forall₂ (fun bound part => Slice source bound.1 bound.2 (String.ofList part))
      (boundsFrom state start (start + byteLength pending) content)
      ((pending ++ (splitFrom state content).1) :: (splitFrom state content).2) := by
  induction content generalizing state start pending with
  | nil =>
    rw [splitFrom, List.append_nil]
    exact .cons remains.slice .nil
  | cons c content ih =>
    cases cut : state.cuts c with
    | true =>
      obtain ⟨rfl, rfl⟩ := cuts_iff.mp cut
      -- A pipe is one byte wide, so the byte behind it is where the next character begins.
      have here : Rest source (start + byteLength pending) (['|'] ++ content) := remains.skip
      have behind : Rest source (start + byteLength pending + 1) ([] ++ content) := here.skip
      obtain ⟨empty, onward⟩ := List.cons.inj (segmentsFrom_cut cut content)
      rw [boundsFrom_cut cut, empty, onward, List.append_nil]
      exact .cons remains.slice (ih .outside [] behind)
    | false =>
      have further : Rest source start ((pending ++ [c]) ++ content) := by simpa using remains
      obtain ⟨longer, same⟩ := List.cons.inj (segmentsFrom_step cut content)
      have own := ih (state.step c) (pending ++ [c]) further
      rw [boundsFrom_step cut, longer, same]
      simpa [Nat.add_assoc] using own

/-- Segments end at the bytes of the pipes that the automaton meets outside of literals. -/
theorem mem_stops_iff {start offset stop : Nat} :
    stop ∈ (boundsFrom state start offset content).dropLast.map Prod.snd ↔
      ∃ before after, content = before ++ '|' :: after ∧ stop = offset + byteLength before ∧
        state.run before = .outside := by
  induction content generalizing state start offset with
  | nil => simp [boundsFrom]
  | cons c content ih =>
    cases cut : state.cuts c with
    | true =>
      obtain ⟨rfl, rfl⟩ := cuts_iff.mp cut
      rw [boundsFrom_cut cut, List.dropLast_cons_of_ne_nil (boundsFrom_ne_nil _ _ _ _), List.map_cons, List.mem_cons, ih]
      constructor
      · rintro (rfl | ⟨before, after, rfl, rfl, outside⟩)
        · exact ⟨[], content, rfl, rfl, rfl⟩
        · exact ⟨'|' :: before, after, rfl, by simp [Nat.add_assoc], outside⟩
      · rintro ⟨before, after, same, rfl, outside⟩
        cases before with
        | nil => exact .inl rfl
        | cons d before =>
          obtain ⟨rfl, behind⟩ := List.cons.inj same
          exact .inr ⟨before, after, behind, by simp [Nat.add_assoc], outside⟩
    | false =>
      rw [boundsFrom_step cut, ih]
      constructor
      · rintro ⟨before, after, rfl, rfl, outside⟩
        exact ⟨c :: before, after, rfl, by simp [Nat.add_assoc], outside⟩
      · rintro ⟨before, after, same, rfl, outside⟩
        cases before with
        | nil =>
          obtain ⟨rfl, _⟩ := List.cons.inj same
          obtain rfl : state = .outside := outside
          cases cut
        | cons d before =>
          obtain ⟨rfl, behind⟩ := List.cons.inj same
          exact ⟨before, after, behind, by simp [Nat.add_assoc], outside⟩

theorem intercalate_segments (content : List Char) : ['|'].intercalate (segments content) = content := by
  rw [segments, segmentsFrom, Text.intercalate_cons]
  exact (splitFrom_isCut .outside content).joins.symm

theorem IsCut.uncut_all (cut : IsCut .outside content first later) : ∀ part ∈ first :: later, Uncut .outside part := by
  induction later generalizing content first with
  | nil => exact List.forall_mem_singleton.mpr cut.uncut
  | cons segment later ih => exact List.forall_mem_cons.mpr ⟨cut.uncut, ih cut.next.2⟩

theorem IsCut.closed (cut : IsCut .outside content first later) :
    ∀ part ∈ (first :: later).dropLast, Quoting.run .outside part = .outside := by
  induction later generalizing content first with
  | nil => simp
  | cons segment later ih =>
    rw [List.dropLast_cons_cons]
    exact List.forall_mem_cons.mpr ⟨cut.next.1, ih cut.next.2⟩

theorem segmentsFrom_append (uncut : Uncut (state.run text) tail) :
    ∃ shut last, segmentsFrom state text = shut ++ [last] ∧
      segmentsFrom state (text ++ tail) = shut ++ [last ++ tail] := by
  induction text generalizing state with
  | nil =>
    have whole : splitFrom state tail = (tail, []) := splitFrom_uncut uncut
    refine ⟨[], [], rfl, ?_⟩
    rw [segmentsFrom, List.nil_append, whole]
    rfl
  | cons c text ih =>
    cases cut : state.cuts c with
    | true =>
      obtain ⟨rfl, rfl⟩ := cuts_iff.mp cut
      have onward : Uncut (Quoting.run .outside text) tail := uncut
      obtain ⟨shut, last, own, extended⟩ := ih onward
      refine ⟨[] :: shut, last, ?_, ?_⟩
      · rw [segmentsFrom_cut cut, own]
        rfl
      · rw [List.cons_append, segmentsFrom_cut cut, extended]
        rfl
    | false =>
      have onward : Uncut ((state.step c).run text) tail := uncut
      obtain ⟨shut, last, own, extended⟩ := ih onward
      rw [List.cons_append, segmentsFrom_step cut, segmentsFrom_step cut]
      -- The character goes to the first segment, which is the last one too when none is shut.
      cases shut with
      | nil =>
        obtain ⟨first, none⟩ := List.cons.inj own
        obtain ⟨whole, nothing⟩ := List.cons.inj extended
        exact ⟨[], c :: last, by rw [first, none]; rfl, by rw [whole, nothing]; rfl⟩
      | cons segment shut =>
        obtain ⟨first, others⟩ := List.cons.inj own
        obtain ⟨same, longer⟩ := List.cons.inj extended
        exact ⟨(c :: segment) :: shut, last, by rw [first, others]; rfl, by rw [same, longer]; rfl⟩

theorem Unclosed.uncut {before : List Char} {quote : Char} (unclosed : Unclosed before quote rest) :
    Uncut .outside (quote :: rest) := by
  intro prior after same outside
  cases prior with
  | nil =>
    obtain ⟨rfl, _⟩ := List.cons.inj same
    exact absurd unclosed.opens (by decide)
  | cons d prior =>
    obtain ⟨rfl, behind⟩ := List.cons.inj same
    have opened : Quoting.step .outside quote = .inside quote := by rw [Quoting.step, if_pos unclosed.opens]
    refine unclosed.inside prior ('|' :: after) behind ?_
    rw [← opened]
    exact outside

/-- Splitting loses nothing and cuts at exactly the pipes outside of literals, between characters. -/
theorem lossless_segments (content : String) :
    Lossless content (segments content.toList) (bounds content.toList) := by
  have cut := splitFrom_isCut .outside content.toList
  refine ⟨List.cons_ne_nil _ _, ?_, ?_, ?_, cut.uncut_all, cut.closed, ?_⟩
  · rw [← String.toList_inj, String.toList_intercalate, List.map_map]
    have texts : String.toList ∘ String.ofList = id := funext fun _ => String.toList_ofList
    rw [texts, List.map_id]
    exact intercalate_segments content.toList
  · exact slices_boundsFrom .outside [] (Text.rest_all content)
  · intro stop
    rw [bounds, mem_stops_iff]
    simp only [Nat.zero_add]
  · intro before quote rest same unclosed
    rw [same]
    refine segmentsFrom_append ?_
    rw [unclosed.outside]
    exact unclosed.uncut

/-- A pipe in a literal, and one behind a quote that is never closed. -/
theorem lossless_segments_unclosed :
    Lossless "é|'|'|\"ü|x" ["é".toList, "'|'".toList, "\"ü|x".toList] [(0, 2), (3, 6), (7, 12)] :=
  lossless_segments "é|'|'|\"ü|x"

end TextTemplate.Expression.Pipeline
