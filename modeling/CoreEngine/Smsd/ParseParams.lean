import CoreEngine.Memory.Cells
import CoreEngine.Smsd.CString
import CoreEngine.Text.Quoted
import Mathlib.Data.List.Forall2

/-!
# `parse_params`

The splitting of an argument into parameters that may stand between quotes (`parse_params` of `verb.c`).
It works with pointers into the string that it is given, and overwrites the character after a parameter
with a NUL. An access outside the string or outside the table of results has no result here.
-/

namespace CoreEngine.Smsd

open CoreEngine.Memory

/-- `state`: outside quotes, between double quotes, between single quotes. -/
inductive QuoteState
  | bare
  | double
  | single
  deriving DecidableEq

/-- The variables of `parse_params`, with the string and the table it writes to. -/
structure ParseState (n nbParams : ℕ) where
  params : Cells n
  result : Fin nbParams → Int
  foundParams : ℕ
  p : Int
  state : QuoteState

/-- The characters of `select`. -/
def isSelected (c : Char) : Bool := c = ' ' || c = '\'' || c = '"' || c = '\r' || c = '\n'

namespace ParseState

variable {n nbParams : ℕ}

/-- `strlen(p)`. -/
def strlen (s : ParseState n nbParams) : Option ℕ :=
  (s.params.skip (fun _ ↦ true) (n + 1) s.p).map fun stop ↦ (stop - s.p).toNat

/-- `*q = '\0'`. -/
def cut (s : ParseState n nbParams) (q : Int) : Option (ParseState n nbParams) :=
  (s.params.store q nul).map fun params ↦ { s with params }

/-- `result[found_params++] = p`. -/
def push (s : ParseState n nbParams) : Option (ParseState n nbParams) :=
  if hroom : s.foundParams < nbParams then
    some { s with
      result := Function.update s.result ⟨s.foundParams, hroom⟩ s.p
      foundParams := s.foundParams + 1 }
  else none

/-- `if (strlen(p)) result[found_params++] = p`. -/
def pushNonempty (s : ParseState n nbParams) : Option (ParseState n nbParams) := do
  let len ← s.strlen
  if len ≠ 0 then s.push else some s

/-- What is done at a quote; `quote` is the state inside quotes of this kind. -/
def atQuote (quote : QuoteState) (q : Int) (s : ParseState n nbParams) : Option (ParseState n nbParams) :=
  if s.state = .bare then some { s with p := q + 1, state := quote }
  else if s.state = quote then do
    let s ← s.cut q
    let s ← s.push
    some { s with p := q + 1, state := .bare }
  else some s

/-- The `switch` on a character that does not end the line. -/
def atSelected (q : Int) (c : Char) (s : ParseState n nbParams) : Option (ParseState n nbParams) :=
  if c = ' ' then
    if s.state = .bare then do
      let s ← s.cut q
      let s ← s.pushNonempty
      some { s with p := q + 1 }
    else some s
  else if c = '"' then s.atQuote .double q
  else s.atQuote .single q

/-- The loop, from the character on that `strpbrk` starts at, with the value that is returned. -/
def loop : ℕ → Int → ParseState n nbParams → Option (ℕ × ParseState n nbParams)
  | 0, _, _ => none
  | rounds + 1, start, s => do
      let q ← s.params.skip (!isSelected ·) (n + 1) start
      let c ← s.params.load q
      if c = nul then do
        let s ← s.pushNonempty
        some (s.foundParams, s)
      else if c = '\n' ∨ c = '\r' then do
        let s ← s.cut q
        let s ← s.push
        some (s.foundParams, s)
      else do
        let s ← s.atSelected q c
        if s.foundParams = nbParams then some (nbParams, s) else loop rounds (q + 1) s

end ParseState

/-- `parse_params(params, nb_params, result)`. -/
def parseParams {n nbParams : ℕ} (params : Cells n) (result : Fin nbParams → Int) :
    Option (ℕ × ParseState n nbParams) :=
  ParseState.loop (n + 1) 0 ⟨params, result, 0, 0, .bare⟩

/-- The parameters that a caller reads through the table. -/
def parameters {n nbParams : ℕ} (params : Cells n) (result : Fin nbParams → Int) : Option (List CString) := do
  let (found, s) ← parseParams params result
  ((List.finRange nbParams).take found).mapM fun i ↦ s.params.text (n + 1) (s.result i)

section Reading

/-- The quotes. -/
def isQuoteMark (c : Char) : Bool := c = '\'' || c = '"'

def isEol (c : Char) : Bool := c = '\r' || c = '\n'

/-- The quote that the state stands for. -/
def QuoteState.quote : QuoteState → Option Char
  | .bare => none
  | .double => some '"'
  | .single => some '\''

abbrev readParams (reader : Text.Reader Char) (line : CString) : Text.Reader Char :=
  reader.readAll ' ' isQuoteMark line

/-- The parameters of a line, of which the reader has the first ones. An end of line ends the last
parameter even when it is empty. -/
def lineParams (reader : Text.Reader Char) (line : CString) : List CString :=
  match line.dropWhile (!isEol ·) with
  | [] => (readParams reader line).atEnd
  | _ :: _ =>
      let last := readParams reader (line.takeWhile (!isEol ·))
      last.found ++ [last.word]

variable {reader : Text.Reader Char} {line rest : CString} {c : Char}

theorem lineParams_of_free (hfree : ∀ c ∈ line, isEol c = false) :
    lineParams reader line = (readParams reader line).atEnd := by
  have hnone : line.dropWhile (!isEol ·) = [] := List.dropWhile_eq_nil_iff.2 fun c hc ↦ by simp [hfree c hc]
  simp [lineParams, hnone]

theorem lineParams_append (hfree : ∀ c ∈ line, isEol c = false) (rest : CString) :
    lineParams reader (line ++ rest) = lineParams (readParams reader line) rest := by
  have hskip : (line ++ rest).dropWhile (!isEol ·) = rest.dropWhile (!isEol ·) :=
    List.dropWhile_append_of_pos fun c hc ↦ by simp [hfree c hc]
  have htake : (line ++ rest).takeWhile (!isEol ·) = line ++ rest.takeWhile (!isEol ·) :=
    List.takeWhile_append_of_pos fun c hc ↦ by simp [hfree c hc]
  simp only [lineParams, readParams, hskip, htake, Text.Reader.readAll_append]

theorem lineParams_cons (hc : isEol c = false) (rest : CString) :
    lineParams reader (c :: rest) = lineParams (reader.read ' ' isQuoteMark c) rest := by
  have hfree : ∀ d ∈ [c], isEol d = false := by simpa using hc
  simpa using lineParams_append hfree rest

theorem lineParams_eol (heol : isEol c = true) : lineParams reader (c :: rest) = reader.found ++ [reader.word] := by
  simp [lineParams, readParams, heol]

theorem found_prefix_lineParams (reader : Text.Reader Char) (line : CString) :
    reader.found <+: lineParams reader line := by
  unfold lineParams
  cases line.dropWhile (!isEol ·) with
  | nil => exact (reader.found_prefix_readAll line).trans (Text.Reader.found_prefix_atEnd _)
  | cons c rest => exact (reader.found_prefix_readAll _).trans (List.prefix_append _ _)

end Reading

theorem quote_eq_none {state : QuoteState} (hstate : state.quote = none) : state = .bare := by
  cases state with
  | bare => rfl
  | double => cases hstate
  | single => cases hstate

theorem quote_injective {state state' : QuoteState} (hstate : state.quote = state'.quote) : state = state' := by
  cases state <;> cases state' <;> simp_all [QuoteState.quote]

section Correctness

variable {n nbParams : ℕ} {result : Fin nbParams → Int} {s s' : ParseState n nbParams} {start q : Int}
  {reader : Text.Reader Char} {line rest : CString} {c : Char}

/-- The table has the given parameters, and is otherwise as it was. -/
structure Tabulates (result : Fin nbParams → Int) (s : ParseState n nbParams) (found : List CString) : Prop where
  count : s.foundParams = found.length
  kept : ∀ i : Fin nbParams, s.foundParams ≤ i → s.result i = result i
  held : ∀ (i : Fin nbParams) (param : CString), found[i.val]? = some param → s.params.Holds (s.result i) param

/-- The state is that of the reader, with the next parameter from `p` up to the given character. The
parameters that are found lie before it. -/
structure Agrees (result : Fin nbParams → Int) (s : ParseState n nbParams) (start : Int)
    (reader : Text.Reader Char) : Prop extends Tabulates result s reader.found where
  before : ∀ (i : Fin nbParams) (param : CString), reader.found[i.val]? = some param →
    s.result i + param.length < s.p
  state : s.state.quote = reader.quote
  word : s.params.Starts s.p reader.word
  word_ne_nul : ∀ c ∈ reader.word, c ≠ nul
  position : s.p + reader.word.length = start

/-- The table with one more parameter. -/
theorem Tabulates.exists_push {found : List CString} {param : CString} (htable : Tabulates result s found)
    (hparam : s.params.Holds s.p param) (hroom : s.foundParams < nbParams) :
    ∃ result', s.push = some { s with result := result', foundParams := s.foundParams + 1 } ∧
      Tabulates result { s with result := result', foundParams := s.foundParams + 1 } (found ++ [param]) ∧
      ∀ i : Fin nbParams, result' i = if i.val = found.length then s.p else s.result i := by
  have hresult (i : Fin nbParams) : Function.update s.result ⟨s.foundParams, hroom⟩ s.p i =
      if i.val = found.length then s.p else s.result i := by
    rw [Function.update_apply, ← htable.count]
    simp [Fin.ext_iff]
  refine ⟨Function.update s.result ⟨s.foundParams, hroom⟩ s.p, ?_, ⟨?_, ?_, ?_⟩, hresult⟩
  · unfold ParseState.push
    rw [dif_pos hroom]
  · simp [htable.count]
  · intro i hi
    have hlt : s.foundParams < i := hi
    have hcount := htable.count
    have hkept := htable.kept i hlt.le
    simp only [hresult]
    rw [if_neg (by omega), hkept]
  · intro i w hw
    simp only [hresult]
    by_cases hi : i.val = found.length
    · have hlast : w = param := by simpa [hi, eq_comm] using hw
      rw [if_pos hi, hlast]
      exact hparam
    · rw [if_neg hi]
      have hbound := (List.getElem?_eq_some_iff.1 hw).1
      rw [List.length_append, List.length_singleton] at hbound
      have hlt : i.val < found.length := by omega
      exact htable.held i w (by rwa [List.getElem?_append_left hlt] at hw)

/-- The characters up to the terminator are the next parameter. -/
theorem Agrees.holds (hagrees : Agrees result s q reader) (hline : s.params.Holds q line) :
    s.params.Holds s.p (reader.word ++ line) := by
  apply hagrees.word.holds_append hagrees.word_ne_nul
  rw [hagrees.position]
  exact hline

/-- A terminator ends the next parameter, and leaves the others as they are. -/
theorem Agrees.exists_cut (hagrees : Agrees result s q reader) (hline : s.params.Holds q (c :: rest)) :
    ∃ params', s.cut q = some { s with params := params' } ∧ params'.Holds s.p reader.word ∧
      params'.Holds (q + 1) rest ∧ Tabulates result { s with params := params' } reader.found := by
  have hposition := hagrees.position
  obtain ⟨params', hstore⟩ := Cells.exists_store_of_load hline.1 nul
  have hcut : s.cut q = some { s with params := params' } := by
    unfold ParseState.cut
    rw [hstore, Option.map_some]
  refine ⟨params', hcut, ?_, hline.2.2.store_before hstore (by omega), hagrees.count, hagrees.kept, ?_⟩
  · apply (hagrees.holds hline).store_nul
    rwa [hposition]
  · intro i param hparam
    have hbefore := hagrees.before i param hparam
    exact (hagrees.held i param hparam).store_behind hstore (by omega)

/-- At a separator or a closing quote the next parameter goes to the table. -/
theorem Agrees.exists_close (hagrees : Agrees result s q reader) (hline : s.params.Holds q (c :: rest))
    (hroom : s.foundParams < nbParams) :
    ∃ params' result', s.cut q = some { s with params := params' } ∧
      ParseState.push { s with params := params' } = some ⟨params', result', s.foundParams + 1, s.p, s.state⟩ ∧
      params'.Holds s.p reader.word ∧ params'.Holds (q + 1) rest ∧
      Agrees result ⟨params', result', s.foundParams + 1, q + 1, .bare⟩ (q + 1)
        ⟨none, [], reader.found ++ [reader.word]⟩ := by
  have hposition := hagrees.position
  obtain ⟨params', hcut, hparam, hrest, htable⟩ := hagrees.exists_cut hline
  obtain ⟨result', hpush, htable', hresult⟩ := htable.exists_push hparam hroom
  refine ⟨params', result', hcut, hpush, hparam, hrest, ⟨htable'.count, htable'.kept, htable'.held⟩, ?_, rfl,
    trivial, nofun, by simp⟩
  intro i param hfound
  simp only [hresult]
  by_cases hi : i.val = reader.found.length
  · have hlast : param = reader.word := by simpa [hi, eq_comm] using hfound
    rw [if_pos hi, hlast]
    omega
  · rw [if_neg hi]
    have hbound := (List.getElem?_eq_some_iff.1 hfound).1
    rw [List.length_append, List.length_singleton] at hbound
    have hlt : i.val < reader.found.length := by omega
    have hbefore := hagrees.before i param (by rwa [List.getElem?_append_left hlt] at hfound)
    omega

/-- Characters that are passed over belong to the next parameter. -/
theorem Agrees.extend (line : CString) (hagrees : Agrees result s start reader)
    (hline : s.params.Holds start (line ++ rest)) :
    Agrees result s (start + line.length) { reader with word := reader.word ++ line } := by
  have hposition := hagrees.position
  refine ⟨⟨hagrees.count, hagrees.kept, hagrees.held⟩, hagrees.before, hagrees.state, ?_, ?_, ?_⟩
  · apply hagrees.word.append
    rw [hposition]
    exact hline.starts
  · intro c hc
    rcases List.mem_append.1 hc with hc | hc
    · exact hagrees.word_ne_nul c hc
    · exact hline.ne_nul (List.mem_append_left rest hc)
  · rw [List.length_append]
    omega

theorem Agrees.readParams_of_plain (hagrees : Agrees result s start reader)
    (hplain : ∀ c ∈ line, isSelected c = false) :
    readParams reader line = { reader with word := reader.word ++ line } := by
  apply Text.Reader.readAll_of_plain
  intro c hc
  have hother := hplain c hc
  simp only [isSelected, Bool.or_eq_false_iff, decide_eq_false_iff_not] at hother
  refine ⟨hother.1.1.1.1, by simp [isQuoteMark, hother], ?_⟩
  rw [← hagrees.state]
  cases s.state with
  | bare => simp [QuoteState.quote]
  | double => simp [QuoteState.quote, Ne.symm hother.1.1.2]
  | single => simp [QuoteState.quote, Ne.symm hother.1.1.1.2]

/-- Between quotes only the closing quote is not passed over. -/
theorem Agrees.read_other (hagrees : Agrees result s q reader) (hbare : s.state ≠ .bare)
    (hother : s.state.quote ≠ some c) :
    reader.read ' ' isQuoteMark c = { reader with word := reader.word ++ [c] } := by
  rw [hagrees.state] at hother
  cases hopen : reader.quote with
  | none => exact absurd (quote_eq_none (hagrees.state.trans hopen)) hbare
  | some quote =>
    have hne : c ≠ quote := by
      rintro rfl
      exact hother hopen
    simp [Text.Reader.read, hopen, hne]

theorem strlen_eq {param : CString} (hparam : s.params.Holds s.p param) : s.strlen = some param.length := by
  have hbounds := hparam.le
  have hall : param.takeWhile (fun _ ↦ true) = param := List.takeWhile_eq_self_iff.2 fun _ _ ↦ rfl
  unfold ParseState.strlen
  rw [Cells.skip_eq hparam (by omega), hall, Option.map_some]
  congr 1
  omega

theorem Agrees.exists_atQuote {mark : Char} {quote : QuoteState} (hagrees : Agrees result s q reader)
    (hline : s.params.Holds q (mark :: rest)) (hquote : quote.quote = some mark) (hmark : isQuoteMark mark = true)
    (hroom : s.foundParams < nbParams) :
    ∃ s', s.atQuote quote q = some s' ∧ s'.params.Holds (q + 1) rest ∧
      Agrees result s' (q + 1) (reader.read ' ' isQuoteMark mark) := by
  have hspace : mark ≠ ' ' := by
    rintro rfl
    simp [isQuoteMark] at hmark
  have hposition := hagrees.position
  have hstate := hagrees.state
  by_cases hbare : s.state = .bare
  · have hopen : reader.quote = none := by rw [← hstate, hbare, QuoteState.quote]
    refine ⟨{ s with p := q + 1, state := quote }, by simp [ParseState.atQuote, hbare], hline.2.2, ?_⟩
    have hread : reader.read ' ' isQuoteMark mark = ⟨some mark, [], reader.found⟩ := by
      simp [Text.Reader.read, hopen, hspace, hmark]
    rw [hread]
    refine ⟨⟨hagrees.count, hagrees.kept, hagrees.held⟩, ?_, hquote, trivial, List.forall_mem_nil _, by simp⟩
    intro i param hparam
    have hbefore := hagrees.before i param hparam
    show s.result i + param.length < q + 1
    omega
  · by_cases hsame : s.state = quote
    · have hopen : reader.quote = some mark := by rw [← hstate, hsame, hquote]
      obtain ⟨params', result', hcut, hpush, -, hrest, hclosed⟩ := hagrees.exists_close hline hroom
      have hread : reader.read ' ' isQuoteMark mark = ⟨none, [], reader.found ++ [reader.word]⟩ := by
        simp [Text.Reader.read, hopen]
      refine ⟨⟨params', result', s.foundParams + 1, q + 1, .bare⟩, ?_, hrest, by rwa [hread]⟩
      unfold ParseState.atQuote
      rw [if_neg hbare, if_pos hsame, hcut, Option.bind_eq_bind, Option.bind_some, hpush]
      rfl
    · -- a quote of the other kind is a character like any other
      have hother : s.state.quote ≠ some mark := by
        rw [← hquote]
        exact fun heq ↦ hsame (quote_injective heq)
      have hread := hagrees.read_other hbare hother
      have hextend := hagrees.extend [mark] hline
      refine ⟨s, ?_, hline.2.2, by rwa [hread]⟩
      unfold ParseState.atQuote
      rw [if_neg hbare, if_neg hsame]

theorem pushNonempty_eq {param : CString} (hparam : s.params.Holds s.p param) :
    s.pushNonempty = if param = [] then some s else s.push := by
  unfold ParseState.pushNonempty
  rw [strlen_eq hparam, Option.bind_eq_bind, Option.bind_some]
  by_cases hempty : param = []
  · simp [hempty]
  · simp [hempty]

theorem Agrees.exists_atSelected (hagrees : Agrees result s q reader) (hline : s.params.Holds q (c :: rest))
    (hselected : isSelected c = true) (heol : isEol c = false) (hroom : s.foundParams < nbParams) :
    ∃ s', s.atSelected q c = some s' ∧ s'.params.Holds (q + 1) rest ∧
      Agrees result s' (q + 1) (reader.read ' ' isQuoteMark c) := by
  unfold ParseState.atSelected
  by_cases hspace : c = ' '
  · subst hspace
    rw [if_pos rfl]
    by_cases hbare : s.state = .bare
    · have hopen : reader.quote = none := by rw [← hagrees.state, hbare, QuoteState.quote]
      have hread : reader.read ' ' isQuoteMark ' ' = ⟨none, [], reader.atEnd⟩ := by
        simp [Text.Reader.read, hopen]
      rw [if_pos hbare, hread]
      by_cases hempty : reader.word = []
      · have hend : reader.atEnd = reader.found := by simp [Text.Reader.atEnd, hempty]
        obtain ⟨params', hcut, hparam, hrest, htable⟩ := hagrees.exists_cut hline
        have hposition := hagrees.position
        refine ⟨{ s with params := params', p := q + 1 }, ?_, hrest, ?_⟩
        · rw [hcut, Option.bind_eq_bind, Option.bind_some, pushNonempty_eq hparam, if_pos hempty]
          rfl
        · rw [hend]
          refine ⟨⟨htable.count, htable.kept, htable.held⟩, ?_, ?_, trivial, List.forall_mem_nil _, by simp⟩
          · intro i param hfound
            have hbefore := hagrees.before i param hfound
            show s.result i + param.length < q + 1
            omega
          · show s.state.quote = none
            rw [hagrees.state, hopen]
      · have hend : reader.atEnd = reader.found ++ [reader.word] := by simp [Text.Reader.atEnd, hempty]
        obtain ⟨params', result', hcut, hpush, hparam, hrest, hclosed⟩ := hagrees.exists_close hline hroom
        refine ⟨⟨params', result', s.foundParams + 1, q + 1, .bare⟩, ?_, hrest, by rwa [hend]⟩
        rw [hcut, Option.bind_eq_bind, Option.bind_some, pushNonempty_eq hparam, if_neg hempty, hpush, hbare]
        rfl
    · have hread : reader.read ' ' isQuoteMark ' ' = { reader with word := reader.word ++ [' '] } := by
        apply hagrees.read_other hbare
        cases s.state with
        | bare => simp [QuoteState.quote]
        | double => simp [QuoteState.quote]
        | single => simp [QuoteState.quote]
      rw [if_neg hbare, hread]
      exact ⟨s, rfl, hline.2.2, hagrees.extend [' '] hline⟩
  · rw [if_neg hspace]
    by_cases hdouble : c = '"'
    · rw [if_pos hdouble]
      subst hdouble
      exact hagrees.exists_atQuote hline rfl rfl hroom
    · rw [if_neg hdouble]
      have hsingle : c = '\'' := by
        simp only [isSelected, isEol, Bool.or_eq_true, Bool.or_eq_false_iff, decide_eq_true_eq,
          decide_eq_false_iff_not] at hselected heol
        tauto
      subst hsingle
      exact hagrees.exists_atQuote hline rfl rfl hroom

/-- At the end of the string. -/
theorem Agrees.exists_end (hagrees : Agrees result s q reader) (hline : s.params.Holds q [])
    (hroom : s.foundParams < nbParams) :
    ∃ s', s.pushNonempty = some s' ∧ Tabulates result s' (reader.atEnd.take nbParams) := by
  have hcount := hagrees.count
  have hlength := reader.length_atEnd_le
  have hparam : s.params.Holds s.p reader.word := by simpa using hagrees.holds hline
  rw [pushNonempty_eq hparam, List.take_of_length_le (by omega)]
  by_cases hempty : reader.word = []
  · have hend : reader.atEnd = reader.found := by simp [Text.Reader.atEnd, hempty]
    rw [if_pos hempty, hend]
    exact ⟨s, rfl, hagrees.toTabulates⟩
  · have hend : reader.atEnd = reader.found ++ [reader.word] := by simp [Text.Reader.atEnd, hempty]
    obtain ⟨result', hpush, htable, -⟩ := hagrees.exists_push hparam hroom
    rw [if_neg hempty, hend]
    exact ⟨_, hpush, htable⟩

/-- At the end of the line. -/
theorem Agrees.exists_eol (hagrees : Agrees result s q reader) (hline : s.params.Holds q (c :: rest))
    (hroom : s.foundParams < nbParams) :
    ∃ s₁ s', s.cut q = some s₁ ∧ s₁.push = some s' ∧
      Tabulates result s' ((reader.found ++ [reader.word]).take nbParams) := by
  have hcount := hagrees.count
  obtain ⟨params', hcut, hparam, -, htable⟩ := hagrees.exists_cut hline
  obtain ⟨result', hpush, htable', -⟩ := htable.exists_push hparam hroom
  have hlength : (reader.found ++ [reader.word]).length ≤ nbParams := by
    rw [List.length_append, List.length_singleton]
    omega
  rw [List.take_of_length_le hlength]
  exact ⟨_, _, hcut, hpush, htable'⟩

/-- `strpbrk` passes over a part of the next parameter. -/
theorem Agrees.exists_skip (hagrees : Agrees result s start reader) (hline : s.params.Holds start line) :
    ∃ (reader' : Text.Reader Char) (plain tail : CString), plain ++ tail = line ∧
      s.params.skip (!isSelected ·) (n + 1) start = some (start + plain.length) ∧
      Agrees result s (start + plain.length) reader' ∧ s.params.Holds (start + plain.length) tail ∧
      lineParams reader line = lineParams reader' tail ∧ ∀ c ∈ tail.head?, isSelected c = true := by
  have hbounds := hline.le
  have hsplit : line.takeWhile (!isSelected ·) ++ line.dropWhile (!isSelected ·) = line :=
    List.takeWhile_append_dropWhile
  have hplain : ∀ c ∈ line.takeWhile (!isSelected ·), isSelected c = false := fun c hc ↦ by
    simpa using List.mem_takeWhile_imp hc
  have hfree : ∀ c ∈ line.takeWhile (!isSelected ·), isEol c = false := fun c hc ↦ by
    have hother := hplain c hc
    simp only [isSelected, Bool.or_eq_false_iff] at hother
    simp [isEol, hother]
  have hselected : ∀ c ∈ (line.dropWhile (!isSelected ·)).head?, isSelected c = true := fun c hc ↦ by
    have hnot := List.head?_dropWhile_not (!isSelected ·) line
    simpa [Option.mem_def.1 hc] using hnot
  refine ⟨readParams reader (line.takeWhile (!isSelected ·)), _, _, hsplit, Cells.skip_eq hline (by omega), ?_,
    hline.dropWhile _, ?_, hselected⟩
  · rw [hagrees.readParams_of_plain hplain]
    exact hagrees.extend _ (by rwa [hsplit])
  · rw [← lineParams_append hfree, hsplit]

/-- The table has the parameters of the line when the loop is left, as many as there is room for. -/
theorem exists_loop {rounds : ℕ} (hagrees : Agrees result s start reader) (hline : s.params.Holds start line)
    (hroom : s.foundParams < nbParams) (hrounds : line.length < rounds) :
    ∃ s', ParseState.loop rounds start s = some (s'.foundParams, s') ∧
      Tabulates result s' ((lineParams reader line).take nbParams) := by
  induction rounds generalizing s start reader line with
  | zero => omega
  | succ rounds ih =>
    obtain ⟨reader', plain, tail, hsplit, hskip, hnext, hrest, hwords, hselected⟩ := hagrees.exists_skip hline
    unfold ParseState.loop
    rw [hskip, hwords]
    simp only [Option.bind_eq_bind, Option.bind_some]
    cases tail with
    | nil =>
      obtain ⟨s', hpush, htable⟩ := hnext.exists_end hrest hroom
      have hload : s.params.load (start + plain.length) = some nul := hrest
      rw [hload, Option.bind_some, if_pos rfl, hpush]
      exact ⟨s', rfl, htable⟩
    | cons c rest =>
      rw [hrest.1, Option.bind_some, if_neg hrest.2.1]
      by_cases heol : isEol c = true
      · have hc : c = '\n' ∨ c = '\r' := by simpa [isEol, or_comm] using heol
        obtain ⟨s₁, s', hcut, hpush, htable⟩ := hnext.exists_eol hrest hroom
        rw [if_pos hc, hcut, Option.bind_some, hpush, lineParams_eol heol]
        exact ⟨s', rfl, htable⟩
      · have hc : ¬(c = '\n' ∨ c = '\r') := by
          intro hc
          exact heol (by simpa [isEol, or_comm] using hc)
        rw [Bool.not_eq_true] at heol
        obtain ⟨s', hswitch, hrest', hagrees'⟩ := hnext.exists_atSelected hrest (hselected c rfl) heol hroom
        have hcount := hnext.count
        have hcount' := hagrees'.count
        have hstep := reader'.found_read ' ' isQuoteMark c
        rw [if_neg hc, hswitch, Option.bind_some, lineParams_cons heol]
        by_cases hfull : s'.foundParams = nbParams
        · obtain ⟨more, hmore⟩ := found_prefix_lineParams (reader'.read ' ' isQuoteMark c) rest
          have htake : (lineParams (reader'.read ' ' isQuoteMark c) rest).take nbParams =
              (reader'.read ' ' isQuoteMark c).found := by
            rw [← hmore, ← hfull, hcount', List.take_left]
          rw [if_pos hfull, htake]
          exact ⟨s', by rw [hfull], hagrees'.toTabulates⟩
        · have hlength : line.length = plain.length + (rest.length + 1) := by
            rw [← hsplit, List.length_append, List.length_cons]
          rw [if_neg hfull]
          exact ih hagrees' hrest' (by omega) (by omega)

theorem exists_parseParams (result : Fin nbParams → Int) {params : Cells n} (hline : params.Holds 0 line)
    (hroom : 1 ≤ nbParams) :
    ∃ s', parseParams params result = some (s'.foundParams, s') ∧
      Tabulates result s' ((lineParams .start line).take nbParams) := by
  have hbounds := hline.le
  have hstart : Agrees result ⟨params, result, 0, 0, .bare⟩ 0 .start :=
    ⟨⟨rfl, fun _ _ ↦ rfl, nofun⟩, nofun, rfl, trivial, nofun, rfl⟩
  exact exists_loop hstart hline hroom (by omega)

end Correctness

section Caller

variable {n nbParams : ℕ} {params : Cells n} {result : Fin nbParams → Int} {line : CString}

theorem mapM_eq_some_of_forall₂ {α β : Type} {f : α → Option β} {list : List α} {values : List β}
    (hvalues : List.Forall₂ (fun a b ↦ f a = some b) list values) : list.mapM f = some values := by
  induction hvalues with
  | nil => rfl
  | cons hhead _ ih => simp [hhead, ih]

/-- What is read through the table are the parameters of the line, as many as there is room for. -/
theorem parameters_eq (hline : params.Holds 0 line) (hroom : 1 ≤ nbParams) :
    parameters params result = some ((lineParams .start line).take nbParams) := by
  obtain ⟨s', hparse, htable⟩ := exists_parseParams result hline hroom
  have hcount := htable.count
  rw [List.length_take] at hcount
  unfold parameters
  rw [hparse, Option.bind_eq_bind, Option.bind_some]
  apply mapM_eq_some_of_forall₂
  rw [List.forall₂_iff_get]
  refine ⟨?_, ?_⟩
  · rw [List.length_take, List.length_finRange, List.length_take]
    omega
  · intro i hi hfound
    have hindex : ((List.finRange nbParams).take s'.foundParams).get ⟨i, hi⟩ =
        ⟨i, by rw [List.length_take, List.length_finRange] at hi; omega⟩ := by
      simp
    have hheld := htable.held ⟨i, by rw [List.length_take, List.length_finRange] at hi; omega⟩ _
      (List.getElem?_eq_getElem hfound)
    have hbounds := hheld.le
    have htext := Cells.text_eq hheld (by omega : _ < n + 1)
    rw [hindex]
    exact htext

/-- The table is filled from its beginning on, at most as far as it goes, and the parameters of a
written line are recovered. -/
theorem parseParams_recovers (params : Cells n) (result : Fin nbParams → Int) (hline : params.Holds 0 line)
    (hroom : 1 ≤ nbParams) :
    (∃ s', parseParams params result = some (s'.foundParams, s') ∧ s'.foundParams ≤ nbParams ∧
      ∀ i : Fin nbParams, if i < s'.foundParams then ∃ param, s'.params.Holds (s'.result i) param
        else s'.result i = result i) ∧
    ∀ (lead : ℕ) (words : List (Text.Written ' ' isQuoteMark × ℕ)),
      (∀ written ∈ words, ∀ c ∈ written.1.word, isEol c = false) →
      line = List.replicate lead ' ' ++ Text.line words →
      parameters params result = some ((words.map (·.1.word)).take nbParams) := by
  refine ⟨?_, ?_⟩
  · obtain ⟨s', hparse, htable⟩ := exists_parseParams result hline hroom
    have hcount := htable.count
    have hlength := List.length_take_le nbParams (lineParams .start line)
    refine ⟨s', hparse, by omega, fun i ↦ ?_⟩
    by_cases hi : i < s'.foundParams
    · rw [if_pos hi]
      exact ⟨_, htable.held i _ (List.getElem?_eq_getElem (by omega))⟩
    · rw [if_neg hi]
      exact htable.kept i (by omega)
  · intro lead words hfree hwritten
    have heol : ∀ c ∈ line, isEol c = false := by
      intro c hc
      rw [hwritten, List.mem_append, List.mem_replicate] at hc
      rcases hc with ⟨-, rfl⟩ | hc
      · rfl
      · rcases Text.mem_line hc with rfl | hquote | ⟨written, hmem, hword⟩
        · rfl
        · simp only [isQuoteMark, Bool.or_eq_true, decide_eq_true_eq] at hquote
          rcases hquote with rfl | rfl <;> rfl
        · exact hfree written hmem c hword
    have hread : (readParams .start line).atEnd = words.map (·.1.word) := by
      rw [hwritten]
      show (Text.Reader.readAll ' ' isQuoteMark ⟨none, [], []⟩ _).atEnd = _
      rw [Text.Reader.readAll_append, Text.Reader.readAll_replicate, Text.Reader.atEnd_readAll_line rfl,
        List.nil_append]
    rw [parameters_eq hline hroom, lineParams_of_free heol, hread]

/-- Of the line ` a 'b c' "" d ` a table of three entries gets the first three parameters. -/
theorem parseParams_recovers_three :
    parameters (Cells.ofString " a 'b c' \"\" d ".toList : Cells 16) (fun _ : Fin 3 ↦ -1) =
      some ["a".toList, "b c".toList, []] :=
  (parseParams_recovers _ _ (Cells.holds_ofString (by decide) (by decide)) (by decide)).2 1
    [(⟨"a".toList, none, by decide, nofun⟩, 0),
      (⟨"b c".toList, some '\'', nofun, by rintro c ⟨⟩; decide⟩, 0),
      (⟨[], some '"', nofun, by rintro c ⟨⟩; decide⟩, 0), (⟨"d".toList, none, by decide, nofun⟩, 1)]
    (by decide) (by decide)

/-- An end of line makes no difference exactly when a parameter is open before it, or the table is full. -/
theorem parameters_eol_iff {m : ℕ} (params : Cells n) (params' : Cells m) (result result' : Fin nbParams → Int)
    {eol rest : CString} (hroom : 1 ≤ nbParams) (hfree : ∀ c ∈ line, isEol c = false)
    (heol : eol = ['\r'] ∨ eol = ['\n'] ∨ eol = ['\r', '\n']) (hline : params.Holds 0 line)
    (hline' : params'.Holds 0 (line ++ (eol ++ rest))) :
    parameters params' result' = parameters params result ↔
      Text.endsInWord ' ' isQuoteMark line = true ∨ nbParams ≤ Text.endedWords ' ' isQuoteMark line := by
  obtain ⟨c, tail, hc, htail⟩ : ∃ c tail, isEol c = true ∧ eol ++ rest = c :: tail := by
    rcases heol with rfl | rfl | rfl
    · exact ⟨_, _, rfl, rfl⟩
    · exact ⟨_, _, rfl, rfl⟩
    · exact ⟨_, _, rfl, rfl⟩
  have hspace : isQuoteMark ' ' = false := rfl
  obtain ⟨-, hword, hfound⟩ := Text.Reader.readAll_start hspace line
  rw [parameters_eq hline hroom, parameters_eq hline' hroom, lineParams_append hfree, htail, lineParams_eol hc,
    lineParams_of_free hfree, ← hword, ← hfound, Option.some.injEq, eq_comm]
  exact Text.Reader.take_atEnd_eq_iff _ nbParams

theorem parameters_eol_iff_bare :
    parameters (Cells.ofString "a\r\n".toList : Cells 4) (fun _ : Fin 2 ↦ 0) =
        parameters (Cells.ofString "a".toList : Cells 2) (fun _ : Fin 2 ↦ 0) ↔
      Text.endsInWord ' ' isQuoteMark "a".toList = true ∨ 2 ≤ Text.endedWords ' ' isQuoteMark "a".toList :=
  @parameters_eol_iff _ _ "a".toList _ _ _ _ _ "\r\n".toList [] (by decide) (by decide) (by decide)
    (Cells.holds_ofString (by decide) (by decide)) (Cells.holds_ofString (by decide) (by decide))

/-- After a closing quote the end of the line adds an empty parameter. -/
theorem parameters_eol_extra :
    parameters (Cells.ofString "\"a\"\n".toList : Cells 5) (fun _ : Fin 2 ↦ 0) = some ["a".toList, []] ∧
      parameters (Cells.ofString "\"a\"".toList : Cells 4) (fun _ : Fin 2 ↦ 0) = some ["a".toList] := by
  decide +kernel

end Caller

end CoreEngine.Smsd
