import Bumble.AtParameters

/-!
# Quoted values as AT parameters

The tokenizer keeps the octets of a quoted value, but a token of a single separator octet is
taken for the separator, and a response is cut at its second colon before it is tokenized.
-/

namespace Bumble.At

/-! ## 1. The tokens of a text -/

namespace Tokenizer

theorem step_quote (tokens : List Bytes) :
    step ⟨tokens, false, []⟩ quote = .ok ⟨tokens, true, [quote]⟩ := rfl

theorem step_inside (tokens : List Bytes) (token : Bytes) {byte : UInt8} (hbyte : byte ≠ quote) :
    step ⟨tokens, true, token⟩ byte = .ok ⟨tokens, true, token ++ [byte]⟩ := by
  rw [step, if_pos rfl]
  exact if_neg hbyte

theorem run_inside (tokens : List Bytes) {value : Bytes} (hvalue : quote ∉ value) (token : Bytes) :
    value.foldlM step ⟨tokens, true, token⟩ = .ok ⟨tokens, true, token ++ value⟩ := by
  induction value generalizing token with
  | nil => rw [List.append_nil]; rfl
  | cons byte value ih =>
    obtain ⟨hbyte, hrest⟩ := not_or.mp (mt List.mem_cons.mpr hvalue)
    rw [List.foldlM_cons, step_inside tokens token (Ne.symm hbyte)]
    exact (ih hrest (token ++ [byte])).trans (by rw [List.append_assoc]; rfl)

theorem step_closing (tokens : List Bytes) (value : Bytes) :
    step ⟨tokens, true, quote :: value⟩ quote = .ok ⟨tokens ++ [value], false, []⟩ := by
  rw [step, if_pos rfl]
  dsimp only
  rw [if_pos rfl, List.cons_append, List.drop_one, List.tail_cons, List.dropLast_concat]

theorem run_piece (piece : Piece) (hquoted : ∀ value, piece = .quoted value → quote ∉ value)
    (tokens : List Bytes) :
    ∃ later, piece.bytes.foldlM step ⟨tokens, false, []⟩ = .ok ⟨tokens ++ later, false, []⟩ ∧
      later.filter kept = piece.tokens := by
  cases piece with
  | comma => exact ⟨[[], [comma]], rfl, rfl⟩
  | openParen => exact ⟨[[openParen]], rfl, rfl⟩
  | closeParen => exact ⟨[[], [closeParen]], rfl, rfl⟩
  | quoted value =>
    refine ⟨[value], ?_, ?_⟩
    · rw [Piece.bytes, List.foldlM_cons, step_quote]
      change List.foldlM step ⟨tokens, true, [quote]⟩ (value ++ [quote]) = _
      rw [List.foldlM_append, run_inside tokens (hquoted value rfl)]
      exact (bind_pure _).trans (step_closing tokens value)
    · cases value <;> rfl

def Quotable (pieces : List Piece) : Prop := ∀ value, .quoted value ∈ pieces → quote ∉ value

theorem Quotable.head {piece : Piece} {pieces : List Piece} (hquotable : Quotable (piece :: pieces))
    (value : Bytes) (heq : piece = .quoted value) : quote ∉ value :=
  hquotable value (heq ▸ List.mem_cons_self)

theorem Quotable.tail {piece : Piece} {pieces : List Piece}
    (hquotable : Quotable (piece :: pieces)) :
    Quotable pieces := fun value hmem => hquotable value (List.mem_cons_of_mem _ hmem)

theorem run_spaced {pieces : List Piece} {text : Bytes} (hspaced : Spaced pieces text)
    (hquotable : Quotable pieces) (tokens : List Bytes) :
    ∃ later, text.foldlM step ⟨tokens, false, []⟩ = .ok ⟨tokens ++ later, false, []⟩ ∧
      later.filter kept = pieces.flatMap Piece.tokens := by
  induction hspaced generalizing tokens with
  | nil => exact ⟨[], by rw [List.append_nil]; rfl, rfl⟩
  | space _ ih =>
    obtain ⟨later, hrun, hkept⟩ := ih hquotable tokens
    exact ⟨later, hrun, hkept⟩
  | piece piece _ ih =>
    obtain ⟨front, hfront, hkeptFront⟩ := run_piece piece hquotable.head tokens
    obtain ⟨later, hrun, hkept⟩ := ih hquotable.tail (tokens ++ front)
    refine ⟨front ++ later, ?_, ?_⟩
    · rw [List.foldlM_append, hfront, ← List.append_assoc]
      exact hrun
    · rw [List.filter_append, hkeptFront, hkept, List.flatMap_cons]

end Tokenizer

theorem tokenize_spaced {pieces : List Piece} {text : Bytes} (hspaced : Spaced pieces text)
    (hquotable : Tokenizer.Quotable pieces) :
    tokenizeParameters text = .ok (pieces.flatMap Piece.tokens) := by
  obtain ⟨later, hrun, hkept⟩ := Tokenizer.run_spaced hspaced hquotable []
  rw [tokenizeParameters, Tokenizer.new, hrun]
  change Except.ok ((([] ++ later) ++ [[]]).filter kept) = _
  rw [List.nil_append, List.filter_append, hkept]
  exact congrArg Except.ok (List.append_nil _)

/-! ## 2. The tree of the tokens -/

namespace ParameterParser

theorem step_comma (outer : List (List Parameter)) (items : List Parameter) (current : Parameter) :
    step ⟨outer, items, current⟩ [comma] = .ok ⟨outer, items ++ [current], .value []⟩ := rfl

theorem step_openParen (outer : List (List Parameter)) (items : List Parameter)
    (current : Parameter) :
    step ⟨outer, items, current⟩ [openParen] = .ok ⟨items :: outer, [], current⟩ := rfl

theorem step_closeParen (outer : List (List Parameter)) (items above : List Parameter)
    (current : Parameter) :
    step ⟨items :: outer, above, current⟩ [closeParen] =
      .ok ⟨outer, items, .list (above ++ [current])⟩ := rfl

theorem step_value (state : ParameterParser) {token : Bytes} (htoken : ¬ Separator token) :
    step state token = .ok { state with current := .value token } := by
  obtain ⟨hcomma, hparens⟩ := not_or.mp htoken
  obtain ⟨hopen, hclose⟩ := not_or.mp hparens
  rw [step, if_neg hcomma, if_neg hopen, if_neg hclose]

/-- The tokens of pieces, one piece after the other. -/
def run (state : ParameterParser) (pieces : List Piece) : Except Error ParameterParser :=
  (pieces.flatMap Piece.tokens).foldlM step state

theorem run_cons (state : ParameterParser) (piece : Piece) (pieces : List Piece) :
    state.run (piece :: pieces) = (piece.tokens.foldlM step state).bind (run · pieces) := by
  rw [run, List.flatMap_cons, List.foldlM_append]
  rfl

theorem run_append (state : ParameterParser) (front pieces : List Piece) :
    state.run (front ++ pieces) = (state.run front).bind (run · pieces) := by
  rw [run, List.flatMap_append, List.foldlM_append]
  rfl

open Parameter in
mutual

theorem run_pieces (parameter : Parameter) (hfilled : parameter.Filled)
    (hplain : ∀ value ∈ parameter.values, ¬ Separator value) (outer : List (List Parameter))
    (items : List Parameter) :
    run ⟨outer, items, .value []⟩ parameter.pieces = .ok ⟨outer, items, parameter⟩ := by
  cases parameter with
  | value bytes =>
    have hbytes := hplain bytes (by rw [values]; exact List.mem_singleton_self _)
    rw [pieces, run_cons, Piece.tokens]
    split
    · next hempty =>
      subst hempty
      rfl
    · rw [List.foldlM_cons, step_value _ hbytes]
      rfl
  | list parameters =>
    rw [Filled] at hfilled
    rw [values] at hplain
    obtain ⟨above, current, hrun, hall⟩ :=
      run_rowPieces parameters hfilled.1 hfilled.2 hplain (items :: outer)
    rw [pieces, run_cons, Piece.tokens, List.foldlM_cons, step_openParen]
    change run ⟨items :: outer, [], .value []⟩ _ = _
    rw [run_append, hrun]
    change run ⟨items :: outer, above, current⟩ [.closeParen] = _
    rw [run_cons, Piece.tokens, List.foldlM_cons, step_closeParen, hall]
    rfl

theorem run_rowPieces (parameters : List Parameter) (hne : parameters ≠ [])
    (hfilled : RowFilled parameters) (hplain : ∀ value ∈ rowValues parameters, ¬ Separator value)
    (outer : List (List Parameter)) :
    ∃ above current, run ⟨outer, [], .value []⟩ (rowPieces parameters) =
      .ok ⟨outer, above, current⟩ ∧ above ++ [current] = parameters := by
  cases parameters with
  | nil => exact absurd rfl hne
  | cons parameter parameters =>
    rw [RowFilled] at hfilled
    rw [rowValues] at hplain
    obtain ⟨above, current, hrun, hall⟩ := run_laterPieces parameters hfilled.2
      (fun value hmem => hplain value (List.mem_append_right _ hmem)) outer [] parameter
    refine ⟨above, current, ?_, hall⟩
    rw [rowPieces, run_append, run_pieces parameter hfilled.1
      (fun value hmem => hplain value (List.mem_append_left _ hmem))]
    exact hrun

theorem run_laterPieces (parameters : List Parameter) (hfilled : RowFilled parameters)
    (hplain : ∀ value ∈ rowValues parameters, ¬ Separator value) (outer : List (List Parameter))
    (items : List Parameter) (current : Parameter) :
    ∃ above last, run ⟨outer, items, current⟩ (laterPieces parameters) =
      .ok ⟨outer, above, last⟩ ∧ above ++ [last] = items ++ current :: parameters := by
  cases parameters with
  | nil => exact ⟨items, current, by rw [laterPieces]; rfl, rfl⟩
  | cons parameter parameters =>
    rw [RowFilled] at hfilled
    rw [rowValues] at hplain
    obtain ⟨above, last, hrun, hall⟩ := run_laterPieces parameters hfilled.2
      (fun value hmem => hplain value (List.mem_append_right _ hmem)) outer (items ++ [current])
      parameter
    refine ⟨above, last, ?_, hall.trans (by rw [List.append_assoc]; rfl)⟩
    rw [laterPieces, run_cons, Piece.tokens, List.foldlM_cons, step_comma]
    change run ⟨outer, items ++ [current], .value []⟩ _ = _
    rw [run_append, run_pieces parameter hfilled.1
      (fun value hmem => hplain value (List.mem_append_left _ hmem))]
    exact hrun

end

/-! ## 3. No separator among the values -/

theorem rowValues_append (front parameters : List Parameter) :
    Parameter.rowValues (front ++ parameters) =
      Parameter.rowValues front ++ Parameter.rowValues parameters := by
  induction front with
  | nil => rfl
  | cons parameter front ih =>
    rw [List.cons_append, Parameter.rowValues, Parameter.rowValues, ih, List.append_assoc]

theorem rowValues_concat (front : List Parameter) (parameter : Parameter) :
    Parameter.rowValues (front ++ [parameter]) = Parameter.rowValues front ++ parameter.values := by
  rw [rowValues_append, Parameter.rowValues, Parameter.rowValues, List.append_nil]

/-- The values that the parser has are not separators. -/
structure Clean (state : ParameterParser) : Prop where
  outer : ∀ items ∈ state.outer, ∀ value ∈ Parameter.rowValues items, ¬ Separator value
  items : ∀ value ∈ Parameter.rowValues (state.items ++ [state.current]), ¬ Separator value

theorem not_separator_nil : ¬ Separator [] := by
  rintro (⟨⟨⟩⟩ | ⟨⟨⟩⟩ | ⟨⟨⟩⟩)

/-- A token that is taken leaves no separator among the values. -/
theorem Clean.step {state state' : ParameterParser} {token : Bytes} (hclean : Clean state)
    (hstep : state.step token = .ok state') : Clean state' := by
  obtain ⟨houter, hitems⟩ := hclean
  unfold ParameterParser.step at hstep
  split at hstep
  · cases hstep
    refine ⟨houter, ?_⟩
    intro value hmem
    rw [rowValues_concat] at hmem
    rcases List.mem_append.mp hmem with hmem | hmem
    · exact hitems value hmem
    · rw [Parameter.values] at hmem
      rw [List.mem_singleton.mp hmem]
      exact not_separator_nil
  · next hcomma =>
    rw [rowValues_concat] at hitems
    split at hstep
    · cases hstep
      refine ⟨?_, ?_⟩
      · intro items hmem
        rcases List.mem_cons.mp hmem with rfl | hmem
        · exact fun value hvalue => hitems value (List.mem_append_left _ hvalue)
        · exact houter items hmem
      · intro value hmem
        rw [rowValues_concat] at hmem
        exact hitems value (List.mem_append_right _ hmem)
    · next hopen =>
      split at hstep
      · next hclose =>
        split at hstep
        · cases hstep
        · next items outer hstack =>
          cases hstep
          rw [hstack] at houter
          refine ⟨fun items hmem => houter items (List.mem_cons_of_mem _ hmem), ?_⟩
          intro value hmem
          rw [rowValues_concat, Parameter.values, rowValues_concat] at hmem
          rcases List.mem_append.mp hmem with hmem | hmem
          · exact houter items List.mem_cons_self value hmem
          · exact hitems value hmem
      · next hclose =>
        cases hstep
        refine ⟨houter, ?_⟩
        intro value hmem
        rw [rowValues_concat, Parameter.values] at hmem
        rcases List.mem_append.mp hmem with hmem | hmem
        · exact hitems value (List.mem_append_left _ hmem)
        · rw [List.mem_singleton.mp hmem]
          rintro (heq | heq | heq)
          · exact hcomma heq
          · exact hopen heq
          · exact hclose heq

theorem Clean.foldlM {tokens : List Bytes} {state state' : ParameterParser} (hclean : Clean state)
    (hrun : tokens.foldlM ParameterParser.step state = .ok state') : Clean state' := by
  induction tokens generalizing state with
  | nil =>
    cases hrun
    exact hclean
  | cons token tokens ih =>
    rw [List.foldlM_cons] at hrun
    obtain ⟨next, hnext, hrun⟩ := except_bind_eq_ok hrun
    exact ih (hclean.step hnext) hrun

theorem clean_new : Clean new := by
  refine ⟨?_, ?_⟩
  · rintro items ⟨⟩
  · intro value hmem
    rw [List.mem_singleton.mp hmem]
    exact not_separator_nil

theorem finish_eq_ok {state : ParameterParser} {parameters : List Parameter}
    (hfinish : state.finish = .ok parameters) : parameters = state.items ++ [state.current] := by
  rw [finish] at hfinish
  split at hfinish
  · cases hfinish
  · cases hfinish
    rfl

end ParameterParser

theorem parse_clean {text : Bytes} {parameters : List Parameter}
    (hparse : parseParameters text = .ok parameters) :
    ∀ value ∈ Parameter.rowValues parameters, ¬ Separator value := by
  obtain ⟨tokens, -, hparse⟩ := except_bind_eq_ok hparse
  obtain ⟨state, hrun, hfinish⟩ := except_bind_eq_ok hparse
  rw [ParameterParser.finish_eq_ok hfinish]
  exact (ParameterParser.clean_new.foldlM hrun).items

/-! ## 4. The pieces of a tree -/

open Parameter in
mutual

theorem quoted_mem_pieces (parameter : Parameter) (bytes : Bytes) :
    .quoted bytes ∈ parameter.pieces ↔ bytes ∈ parameter.values := by
  cases parameter with
  | value octets => simp [pieces, values]
  | list parameters => simp [pieces, values, quoted_mem_rowPieces parameters bytes]

theorem quoted_mem_rowPieces (parameters : List Parameter) (bytes : Bytes) :
    .quoted bytes ∈ rowPieces parameters ↔ bytes ∈ rowValues parameters := by
  cases parameters with
  | nil => simp [rowPieces, rowValues]
  | cons parameter parameters =>
    simp [rowPieces, rowValues, quoted_mem_pieces parameter bytes,
      quoted_mem_laterPieces parameters bytes]

theorem quoted_mem_laterPieces (parameters : List Parameter) (bytes : Bytes) :
    .quoted bytes ∈ laterPieces parameters ↔ bytes ∈ rowValues parameters := by
  cases parameters with
  | nil => simp [laterPieces, rowValues]
  | cons parameter parameters =>
    simp [laterPieces, rowValues, quoted_mem_pieces parameter bytes,
      quoted_mem_laterPieces parameters bytes]

end

theorem parse_written {parameters : List Parameter} (hne : parameters ≠ [])
    (hfilled : Parameter.RowFilled parameters)
    (hquotable : ∀ value ∈ Parameter.rowValues parameters, quote ∉ value)
    (hplain : ∀ value ∈ Parameter.rowValues parameters, ¬ Separator value) {text : Bytes}
    (htext : Written parameters text) : parseParameters text = .ok parameters := by
  have hpieces : Tokenizer.Quotable (Parameter.rowPieces parameters) :=
    fun value hmem => hquotable value ((quoted_mem_rowPieces parameters value).mp hmem)
  obtain ⟨above, current, hrun, hall⟩ :=
    ParameterParser.run_rowPieces parameters hne hfilled hplain []
  rw [ParameterParser.run] at hrun
  rw [parseParameters, tokenize_spaced htext hpieces]
  change (List.foldlM ParameterParser.step ⟨[], [], .value []⟩ _).bind _ = _
  rw [hrun]
  exact congrArg Except.ok hall

/-! ## 5. A response is cut at a colon -/

theorem colon_mem_spaced {pieces : List Piece} {text : Bytes} (hspaced : Spaced pieces text) :
    colon ∈ text ↔ ∃ value, .quoted value ∈ pieces ∧ colon ∈ value := by
  induction hspaced with
  | nil => simp
  | space _ ih => simpa [space, colon] using ih
  | @piece piece pieces text _ ih =>
    have hpiece : colon ∈ piece.bytes ↔ ∃ value, piece = .quoted value ∧ colon ∈ value := by
      cases piece <;> simp [Piece.bytes, colon, comma, openParen, closeParen, quote]
    rw [List.mem_append, ih, hpiece]
    simp only [List.mem_cons]
    constructor
    · rintro (⟨value, rfl, hcolon⟩ | ⟨value, hmem, hcolon⟩)
      · exact ⟨value, .inl rfl, hcolon⟩
      · exact ⟨value, .inr hmem, hcolon⟩
    · rintro ⟨value, heq | hmem, hcolon⟩
      · exact .inl ⟨value, heq.symm, hcolon⟩
      · exact .inr ⟨value, hmem, hcolon⟩

theorem takeWhile_eq_self {text : Bytes} (hcolon : colon ∉ text) :
    text.takeWhile (· != colon) = text :=
  List.takeWhile_eq_self_iff.mpr fun _ hmem =>
    bne_iff_ne.mpr fun heq => hcolon (heq ▸ hmem)

theorem takeWhile_append_of_mem {front : Bytes} (hcolon : colon ∈ front) (text : Bytes) :
    (front ++ text).takeWhile (· != colon) = front.takeWhile (· != colon) := by
  induction front with
  | nil => cases hcolon
  | cons byte front ih =>
    rw [List.cons_append, List.takeWhile_cons, List.takeWhile_cons]
    split
    · next hbyte =>
      rcases List.mem_cons.mp hcolon with heq | hcolon
      · exact absurd heq.symm (bne_iff_ne.mp hbyte)
      · rw [ih hcolon]
    · rfl

theorem takeWhile_append_of_not_mem {front : Bytes} (hcolon : colon ∉ front) (text : Bytes) :
    (front ++ text).takeWhile (· != colon) = front ++ text.takeWhile (· != colon) :=
  List.takeWhile_append_of_pos fun _ hmem => bne_iff_ne.mpr fun heq => hcolon (heq ▸ hmem)

theorem run_cut {pieces : List Piece} {text : Bytes} (hspaced : Spaced pieces text)
    (hquotable : Tokenizer.Quotable pieces) (hcolon : colon ∈ text) (tokens : List Bytes) :
    ∃ later part, (text.takeWhile (· != colon)).foldlM Tokenizer.step ⟨tokens, false, []⟩ =
      .ok ⟨later, true, quote :: part⟩ := by
  induction hspaced generalizing tokens with
  | nil => cases hcolon
  | space _ ih => exact ih hquotable ((List.mem_cons.mp hcolon).resolve_left (by decide)) tokens
  | @piece piece pieces text _ ih =>
    by_cases hpiece : colon ∈ piece.bytes
    · rw [takeWhile_append_of_mem hpiece]
      cases piece with
      | comma => exact absurd hpiece (by decide)
      | openParen => exact absurd hpiece (by decide)
      | closeParen => exact absurd hpiece (by decide)
      | quoted value =>
        have hvalue : colon ∈ value := by
          rcases List.mem_cons.mp hpiece with heq | hmem
          · exact absurd heq (by decide)
          · rcases List.mem_append.mp hmem with hmem | hmem
            · exact hmem
            · exact absurd (List.mem_singleton.mp hmem) (by decide)
        have hpart : quote ∉ value.takeWhile (· != colon) := fun hmem =>
          hquotable.head value rfl ((List.takeWhile_sublist _).subset hmem)
        refine ⟨tokens, value.takeWhile (· != colon), ?_⟩
        rw [Piece.bytes, List.takeWhile_cons_of_pos (by decide), takeWhile_append_of_mem hvalue,
          List.foldlM_cons, Tokenizer.step_quote]
        exact Tokenizer.run_inside tokens hpart [quote]
    · have htext : colon ∈ text := (List.mem_append.mp hcolon).resolve_left hpiece
      obtain ⟨front, hfront, -⟩ := Tokenizer.run_piece piece hquotable.head tokens
      obtain ⟨later, part, hrun⟩ := ih hquotable.tail htext (tokens ++ front)
      refine ⟨later, part, ?_⟩
      rw [takeWhile_append_of_not_mem hpiece, List.foldlM_append, hfront]
      exact hrun

theorem parse_cut {text : Bytes} {tokens : List Bytes} {part : Bytes}
    (hrun : text.foldlM Tokenizer.step Tokenizer.new = .ok ⟨tokens, true, quote :: part⟩)
    {parameters : List Parameter} (hparse : parseParameters text = .ok parameters) :
    quote :: part ∈ Parameter.rowValues parameters := by
  have htokens : tokenizeParameters text = .ok (tokens.filter kept ++ [quote :: part]) := by
    rw [tokenizeParameters, hrun]
    change Except.ok ((tokens ++ [quote :: part]).filter kept) = _
    rw [List.filter_append]
    rfl
  have htoken : ¬ Separator (quote :: part) := by
    rintro (heq | heq | heq)
    · exact absurd (List.cons.inj heq).1 (by decide)
    · exact absurd (List.cons.inj heq).1 (by decide)
    · exact absurd (List.cons.inj heq).1 (by decide)
  obtain ⟨_, hread, hparse⟩ := except_bind_eq_ok hparse
  obtain ⟨state, hstate, hfinish⟩ := except_bind_eq_ok hparse
  rw [htokens] at hread
  cases hread
  rw [List.foldlM_append] at hstate
  obtain ⟨before, -, hlast⟩ := except_bind_eq_ok hstate
  rw [List.foldlM_cons, ParameterParser.step_value _ htoken] at hlast
  cases hlast
  rw [ParameterParser.finish_eq_ok hfinish, ParameterParser.rowValues_concat, Parameter.values]
  exact List.mem_append_right _ (List.mem_singleton_self _)

theorem response_parse {code : String} (hcode : colon ∉ stringBytes code) (text : Bytes) :
    AtResponse.parse (stringBytes code ++ colon :: text) =
      (parseParameters (text.takeWhile (· != colon))).bind fun parameters =>
        .ok ⟨code, parameters⟩ := by
  have htake : (stringBytes code ++ colon :: text).takeWhile (· != colon) = stringBytes code := by
    rw [takeWhile_append_of_not_mem hcode, List.takeWhile_cons_of_neg (by decide), List.append_nil]
  have hdrop : (stringBytes code ++ colon :: text).dropWhile (· != colon) = colon :: text := by
    have hall := List.takeWhile_append_dropWhile (p := (· != colon))
      (l := stringBytes code ++ colon :: text)
    rw [htake] at hall
    exact List.append_cancel_left hall
  rw [AtResponse.parse, htake, hdrop, stringFromUtf8_bytes]
  rfl

/-- **Quoted values are kept.**  The parameters written with their values in quotes are parsed
    again, alone and behind the code of a response, if and only if no value is a comma or a
    parenthesis alone, and none has a colon. -/
theorem at_parameters_iff {parameters : List Parameter} (hne : parameters ≠ [])
    (hfilled : Parameter.RowFilled parameters)
    (hquotable : ∀ value ∈ Parameter.rowValues parameters, quote ∉ value) {text : Bytes}
    (htext : Written parameters text) {code : String} (hcode : colon ∉ stringBytes code) :
    (parseParameters text = .ok parameters ∧
        AtResponse.parse (stringBytes code ++ colon :: text) = .ok ⟨code, parameters⟩) ↔
      ∀ value ∈ Parameter.rowValues parameters, ¬ Separator value ∧ colon ∉ value := by
  have hpieces : Tokenizer.Quotable (Parameter.rowPieces parameters) :=
    fun value hmem => hquotable value ((quoted_mem_rowPieces parameters value).mp hmem)
  have hcolons : colon ∈ text ↔ ∃ value ∈ Parameter.rowValues parameters, colon ∈ value := by
    rw [colon_mem_spaced htext]
    simp only [quoted_mem_rowPieces]
  rw [response_parse hcode]
  constructor
  · rintro ⟨hparse, hresponse⟩ value hmem
    refine ⟨parse_clean hparse value hmem, ?_⟩
    intro hcolon
    obtain ⟨later, part, hrun⟩ := run_cut htext hpieces (hcolons.mpr ⟨value, hmem, hcolon⟩) []
    obtain ⟨parsed, hparsed, heq⟩ := except_bind_eq_ok hresponse
    obtain rfl : parsed = parameters := by
      cases heq
      rfl
    exact hquotable _ (parse_cut hrun hparsed) List.mem_cons_self
  · intro hplain
    have hparse := parse_written hne hfilled hquotable (fun value hmem =>
      (hplain value hmem).1) htext
    have huncut : colon ∉ text := by
      intro hcolon
      obtain ⟨value, hmem, hvalue⟩ := hcolons.mp hcolon
      exact (hplain value hmem).2 hvalue
    refine ⟨hparse, ?_⟩
    rw [takeWhile_eq_self huncut, hparse]
    rfl

/-- A value with separators among other octets, and a list of an empty value and another. -/
theorem separators_inside_kept :
    (parseParameters [0x20, 0x22, 0x2C, 0x28, 0x22, 0x2C, 0x28, 0x22, 0x22, 0x20, 0x2C, 0x22, 0x41,
        0x22, 0x29] = .ok [.value [0x2C, 0x28], .list [.value [], .value [0x41]]] ∧
        AtResponse.parse (stringBytes "+A" ++ colon :: [0x20, 0x22, 0x2C, 0x28, 0x22, 0x2C, 0x28,
          0x22, 0x22, 0x20, 0x2C, 0x22, 0x41, 0x22, 0x29]) =
          .ok ⟨"+A", [.value [0x2C, 0x28], .list [.value [], .value [0x41]]]⟩) ↔
      ∀ value ∈ Parameter.rowValues [.value [0x2C, 0x28], .list [.value [], .value [0x41]]],
        ¬ Separator value ∧ colon ∉ value := by
  have hspaced : Spaced [.quoted [0x2C, 0x28], .comma, .openParen, .quoted [], .comma,
      .quoted [0x41], .closeParen] [0x20, 0x22, 0x2C, 0x28, 0x22, 0x2C, 0x28, 0x22, 0x22, 0x20,
        0x2C, 0x22, 0x41, 0x22, 0x29] :=
    .space (.piece (.quoted [0x2C, 0x28]) (.piece .comma (.piece .openParen (.piece (.quoted [])
      (.space (.piece .comma (.piece (.quoted [0x41]) (.piece .closeParen .nil))))))))
  refine at_parameters_iff (by simp) ?_ ?_ ?_ (by decide)
  · simp [Parameter.RowFilled, Parameter.Filled]
  · simp [Parameter.rowValues, Parameter.values, quote]
  · simpa [Written, Parameter.rowPieces, Parameter.laterPieces, Parameter.pieces] using hspaced

/-- A quoted comma separates two empty values. -/
theorem quoted_comma_separates :
    ∃ parameters text, parameters ≠ [] ∧ Parameter.RowFilled parameters ∧
      (∀ value ∈ Parameter.rowValues parameters, quote ∉ value) ∧ Written parameters text ∧
      parseParameters text ≠ .ok parameters := by
  have hspaced : Spaced [.quoted [comma]] [0x22, 0x2C, 0x22] := .piece (.quoted [comma]) .nil
  refine ⟨[.value [comma]], [0x22, 0x2C, 0x22], by simp, ?_, ?_, ?_, ?_⟩
  · simp [Parameter.RowFilled, Parameter.Filled]
  · simp [Parameter.rowValues, Parameter.values, quote, comma]
  · simpa [Written, Parameter.rowPieces, Parameter.laterPieces, Parameter.pieces] using hspaced
  · intro hparse
    refine parse_clean hparse [comma] ?_ (.inl rfl)
    simp [Parameter.rowValues, Parameter.values]

end Bumble.At
