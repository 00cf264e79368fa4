import CoreEngine.Json.Grammar

/-!
# A parser for JSON

A machine that reads a text from the left, one character at a time, and keeps a stack of the arrays and
objects it is in. A text cut in two is read in two, and every text of the grammar is read, with what it
denotes.
-/

namespace CoreEngine.Json

section Machine

/-- How far a number is read. -/
inductive Phase
  | start | minus | zero | int | point | frac | exp | sign | digits
  deriving DecidableEq, Repr

/-- The phase after one more character, if it belongs to the number. -/
def Phase.next : Phase → Char → Option Phase
  | .start, c =>
      if c = '-' then some .minus else if c = '0' then some .zero else if c.isDigit then some .int else none
  | .minus, c => if c = '0' then some .zero else if c.isDigit then some .int else none
  | .zero, c => if c = '.' then some .point else if c = 'e' ∨ c = 'E' then some .exp else none
  | .int, c =>
      if c.isDigit then some .int
      else if c = '.' then some .point
      else if c = 'e' ∨ c = 'E' then some .exp else none
  | .point, c => if c.isDigit then some .frac else none
  | .frac, c => if c.isDigit then some .frac else if c = 'e' ∨ c = 'E' then some .exp else none
  | .exp, c => if c.isDigit then some .digits else if c = '+' ∨ c = '-' then some .sign else none
  | .sign, c => if c.isDigit then some .digits else none
  | .digits, c => if c.isDigit then some .digits else none

/-- A number may end here. -/
def Phase.final : Phase → Bool
  | .zero | .int | .frac | .digits => true
  | _ => false

inductive Literal
  | null | true | false
  deriving DecidableEq, Repr

def Literal.text : Literal → List Char
  | .null => ['n', 'u', 'l', 'l']
  | .true => ['t', 'r', 'u', 'e']
  | .false => ['f', 'a', 'l', 's', 'e']

def Literal.value : Literal → Json
  | .null => .null
  | .true => .bool Bool.true
  | .false => .bool Bool.false

/-- An array with the items before the one being read, or an object with the members before the one whose
value is being read. -/
inductive Frame
  | array (items : List Json)
  | member (members : List (List ℕ × Json)) (name : List ℕ)

/-- Where a string may stand: as a value, or as the name after some members. -/
abbrev Place := Option (List (List ℕ × Json))

inductive Mode
  /-- Before a value, or before a name. -/
  | token (place : Place)
  | chars (place : Place) (units : List ℕ)
  | escape (place : Place) (units : List ℕ)
  | hex (place : Place) (units : List ℕ) (digits : List Char)
  | colon (members : List (List ℕ × Json)) (name : List ℕ)
  | number (phase : Phase) (text : List Char)
  /-- The first characters of a literal. -/
  | literal (literal : Literal) (read : ℕ)
  | after (v : Json)

abbrev State := Mode × List Frame

/-- The next character after a value. -/
def stepAfter (v : Json) (frames : List Frame) (c : Char) : Option State :=
  if isBlank c then some (.after v, frames) else
    match frames with
    | [] => none
    | .array items :: frames =>
        if c = ',' then some (.token none, .array (items ++ [v]) :: frames)
        else if c = ']' then some (.after (.arr (items ++ [v])), frames) else none
    | .member members name :: frames =>
        if c = ',' then some (.token (some (members ++ [(name, v)])), frames)
        else if c = '\x7d' then some (.after (.obj (members ++ [(name, v)])), frames) else none

/-- The first character of a value. Only an array that has just been opened may be closed here. -/
def stepValue (frames : List Frame) (c : Char) : Option State :=
  if c = '"' then some (.chars none [], frames)
  else if c = '[' then some (.token none, .array [] :: frames)
  else if c = '\x7b' then some (.token (some []), frames)
  else if c = 'n' then some (.literal .null 1, frames)
  else if c = 't' then some (.literal .true 1, frames)
  else if c = 'f' then some (.literal .false 1, frames)
  else if c = ']' then
    match frames with
    | .array [] :: frames => some (.after (.arr []), frames)
    | _ => none
  else (Phase.start.next c).map fun phase ↦ (.number phase [c], frames)

/-- The first character of a name. Only an object that has just been opened may be closed here. -/
def stepName (members : List (List ℕ × Json)) (frames : List Frame) (c : Char) : Option State :=
  if c = '"' then some (.chars (some members) [], frames)
  else if c = '\x7d' then
    match members with
    | [] => some (.after (.obj []), frames)
    | _ => none
  else none

def step : State → Char → Option State
  | (.token place, frames), c =>
      if isBlank c then some (.token place, frames)
      else place.elim (stepValue frames c) fun members ↦ stepName members frames c
  | (.chars place units, frames), c =>
      if c = '"' then
        some (place.elim (.after (.str (combine units))) fun members ↦ .colon members (combine units), frames)
      else if c = '\\' then some (.escape place units, frames)
      else if isPlain c then some (.chars place (units ++ [c.toNat]), frames) else none
  | (.escape place units, frames), c =>
      if c = 'u' then some (.hex place units [], frames)
      else (escaped c).map fun n ↦ (.chars place (units ++ [n]), frames)
  | (.hex place units digits, frames), c =>
      if (hexDigit c).isSome then
        if digits.length = 3 then some (.chars place (units ++ [hexValue (digits ++ [c])]), frames)
        else some (.hex place units (digits ++ [c]), frames)
      else none
  | (.colon members name, frames), c =>
      if isBlank c then some (.colon members name, frames)
      else if c = ':' then some (.token none, .member members name :: frames) else none
  | (.number phase text, frames), c =>
      match phase.next c with
      | some phase => some (.number phase (text ++ [c]), frames)
      | none => if phase.final then stepAfter (.num text) frames c else none
  | (.literal literal read, frames), c =>
      if literal.text[read]? = some c then
        some (if literal.text.length = read + 1 then .after literal.value else .literal literal (read + 1), frames)
      else none
  | (.after v, frames), c => stepAfter v frames c

def run (s : State) (text : List Char) : Option State := text.foldlM step s

/-- The value that has been read, if the text may end here. -/
def accepted : State → Option Json
  | (.after v, []) => some v
  | (.number phase text, []) => if phase.final then some (.num text) else none
  | _ => none

def parse (text : List Char) : Option Json := (run (.token none, []) text).bind accepted

@[simp]
theorem run_nil (s : State) : run s [] = some s := rfl

@[simp]
theorem run_cons (s : State) (c : Char) (text : List Char) :
    run s (c :: text) = (step s c).bind fun s ↦ run s text := rfl

theorem run_append (s : State) (text more : List Char) :
    run s (text ++ more) = (run s text).bind fun s ↦ run s more :=
  List.foldlM_append

end Machine

section Blanks

variable {s : State} {text : List Char}

theorem run_blank (hs : ∀ c, isBlank c = true → step s c = some s) (htext : Blank text) :
    run s text = some s := by
  induction text with
  | nil => rfl
  | cons c text ih =>
    have hc : isBlank c = true := htext c List.mem_cons_self
    have hrest : Blank text := fun d hd ↦ htext d (List.mem_cons_of_mem c hd)
    rw [run_cons, hs c hc, Option.bind_some, ih hrest]

theorem run_blank_token (htext : Blank text) (place : Place) (frames : List Frame) :
    run (.token place, frames) text = some (.token place, frames) :=
  run_blank (fun c hc ↦ by simp [step, hc]) htext

theorem run_blank_colon (htext : Blank text) (members : List (List ℕ × Json)) (name : List ℕ)
    (frames : List Frame) : run (.colon members name, frames) text = some (.colon members name, frames) :=
  run_blank (fun c hc ↦ by simp [step, hc]) htext

theorem run_blank_after (htext : Blank text) (v : Json) (frames : List Frame) :
    run (.after v, frames) text = some (.after v, frames) :=
  run_blank (fun c hc ↦ by simp [step, stepAfter, hc]) htext

end Blanks

section Numbers

/-- The phases along a text. -/
def Phase.run (phase : Phase) (text : List Char) : Option Phase := text.foldlM Phase.next phase

theorem Phase.run_cons (phase : Phase) (c : Char) (text : List Char) :
    phase.run (c :: text) = (phase.next c).bind fun phase ↦ phase.run text := rfl

theorem Phase.run_append (phase : Phase) (text more : List Char) :
    phase.run (text ++ more) = (phase.run text).bind fun phase ↦ phase.run more :=
  List.foldlM_append

/-- A run of digits in a phase that stays the same. -/
theorem Phase.run_digits {phase : Phase} (hphase : ∀ c, c.isDigit = true → phase.next c = some phase)
    {text : List Char} (htext : ∀ c ∈ text, c.isDigit = true) : phase.run text = some phase := by
  induction text with
  | nil => rfl
  | cons c text ih =>
    have hc := htext c List.mem_cons_self
    have hrest : ∀ d ∈ text, d.isDigit = true := fun d hd ↦ htext d (List.mem_cons_of_mem c hd)
    rw [Phase.run_cons, hphase c hc, Option.bind_some, ih hrest]

/-- Digits that lead from one phase to another, and stay there. -/
theorem Phase.run_enter {phase phase' : Phase} (henter : ∀ c, c.isDigit = true → phase.next c = some phase')
    (hstay : ∀ c, c.isDigit = true → phase'.next c = some phase') {text : List Char} (htext : Digits text) :
    phase.run text = some phase' := by
  obtain ⟨hne, hdigits⟩ := htext
  cases text with
  | nil => exact absurd rfl hne
  | cons c text =>
    have hc := hdigits c List.mem_cons_self
    have hrest : ∀ d ∈ text, d.isDigit = true := fun d hd ↦ hdigits d (List.mem_cons_of_mem c hd)
    rw [Phase.run_cons, henter c hc, Option.bind_some, run_digits hstay hrest]

theorem Phase.run_isInt {phase : Phase} (hphase : phase = .start ∨ phase = .minus) {text : List Char}
    (htext : IsInt text) : phase.run text = some .zero ∨ phase.run text = some .int := by
  rcases htext with rfl | ⟨⟨hne, hdigits⟩, hhead⟩
  · left
    rcases hphase with rfl | rfl <;> rfl
  · right
    cases text with
    | nil => exact absurd rfl hne
    | cons c text =>
      have hc := hdigits c List.mem_cons_self
      have hrest : ∀ d ∈ text, d.isDigit = true := fun d hd ↦ hdigits d (List.mem_cons_of_mem c hd)
      have hzero : c ≠ '0' := fun hzero ↦ hhead (by rw [hzero]; rfl)
      have hminus : c ≠ '-' := by
        rintro rfl
        exact nomatch hc
      have hstay : ∀ d, d.isDigit = true → Phase.next .int d = some .int := fun d hd ↦ by simp [next, hd]
      have hfirst : phase.next c = some .int := by
        rcases hphase with rfl | rfl <;> simp [next, hzero, hminus, hc]
      rw [Phase.run_cons, hfirst, Option.bind_some, run_digits hstay hrest]

theorem Phase.run_isFrac {phase : Phase} (hphase : phase = .zero ∨ phase = .int) {text : List Char}
    (htext : IsFrac text) : phase.run text = some phase ∨ phase.run text = some .frac := by
  rcases htext with rfl | ⟨digits, hdigits, rfl⟩
  · exact .inl rfl
  · right
    have hpoint : phase.next '.' = some .point := by rcases hphase with rfl | rfl <;> rfl
    rw [Phase.run_cons, hpoint, Option.bind_some]
    exact run_enter (fun c hc ↦ by simp [next, hc]) (fun c hc ↦ by simp [next, hc]) hdigits

theorem Phase.run_isExp {phase : Phase} (hphase : phase = .zero ∨ phase = .int ∨ phase = .frac)
    {text : List Char} (htext : IsExp text) : phase.run text = some phase ∨ phase.run text = some .digits := by
  rcases htext with rfl | ⟨e, sign, digits, he, hsign, hdigits, rfl⟩
  · exact .inl rfl
  · right
    have hexp : phase.next e = some .exp := by
      rcases hphase with rfl | rfl | rfl <;> rcases he with rfl | rfl <;> rfl
    have hstay : ∀ c, c.isDigit = true → Phase.next .digits c = some .digits := fun c hc ↦ by simp [next, hc]
    have hsigned : Phase.run .sign digits = some .digits :=
      run_enter (fun c hc ↦ by simp [next, hc]) hstay hdigits
    rw [Phase.run_cons, hexp, Option.bind_some, Phase.run_append]
    rcases hsign with rfl | rfl | rfl
    · exact run_enter (fun c hc ↦ by simp [next, hc]) hstay hdigits
    · exact hsigned
    · exact hsigned

/-- A number is read to a phase where it may end. -/
theorem Phase.run_isNumber {text : List Char} (htext : IsNumber text) :
    ∃ phase, Phase.run .start text = some phase ∧ phase.final = true := by
  obtain ⟨sign, int, frac, exp, hsign, hint, hfrac, hexp, rfl⟩ := htext
  obtain ⟨first, hfirst, hrun⟩ : ∃ first : Phase, (first = .start ∨ first = .minus) ∧
      Phase.run .start sign = some first := by
    rcases hsign with rfl | rfl
    · exact ⟨.start, .inl rfl, rfl⟩
    · exact ⟨.minus, .inr rfl, rfl⟩
  obtain ⟨second, hsecond, hrun'⟩ : ∃ second : Phase, (second = .zero ∨ second = .int) ∧
      first.run int = some second := by
    rcases run_isInt hfirst hint with h | h
    · exact ⟨.zero, .inl rfl, h⟩
    · exact ⟨.int, .inr rfl, h⟩
  obtain ⟨third, hthird, hrun''⟩ : ∃ third : Phase, (third = .zero ∨ third = .int ∨ third = .frac) ∧
      second.run frac = some third := by
    rcases run_isFrac hsecond hfrac with h | h
    · exact ⟨second, by grind, h⟩
    · exact ⟨.frac, by simp, h⟩
  simp only [Phase.run_append, hrun, hrun', hrun'', Option.bind_some]
  rcases run_isExp hthird hexp with h | h
  · refine ⟨third, h, ?_⟩
    rcases hthird with rfl | rfl | rfl <;> rfl
  · exact ⟨.digits, h, rfl⟩

/-- What has been read of a number in each phase. -/
def Phase.Reads : Phase → List Char → Prop
  | .start, text => text = []
  | .minus, text => text = ['-']
  | .zero, text => ∃ sign, (sign = [] ∨ sign = ['-']) ∧ text = sign ++ ['0']
  | .int, text => ∃ sign int, (sign = [] ∨ sign = ['-']) ∧ (Digits int ∧ int.head? ≠ some '0') ∧
      text = sign ++ int
  | .point, text => ∃ sign int, (sign = [] ∨ sign = ['-']) ∧ IsInt int ∧ text = sign ++ int ++ ['.']
  | .frac, text => ∃ sign int digits, (sign = [] ∨ sign = ['-']) ∧ IsInt int ∧ Digits digits ∧
      text = sign ++ int ++ '.' :: digits
  | .exp, text => ∃ sign int frac e, (sign = [] ∨ sign = ['-']) ∧ IsInt int ∧ IsFrac frac ∧
      (e = 'e' ∨ e = 'E') ∧ text = sign ++ int ++ frac ++ [e]
  | .sign, text => ∃ sign int frac e sign', (sign = [] ∨ sign = ['-']) ∧ IsInt int ∧ IsFrac frac ∧
      (e = 'e' ∨ e = 'E') ∧ (sign' = '+' ∨ sign' = '-') ∧ text = sign ++ int ++ frac ++ [e, sign']
  | .digits, text => ∃ sign int frac e sign' digits, (sign = [] ∨ sign = ['-']) ∧ IsInt int ∧ IsFrac frac ∧
      (e = 'e' ∨ e = 'E') ∧ (sign' = [] ∨ sign' = ['+'] ∨ sign' = ['-']) ∧ Digits digits ∧
      text = sign ++ int ++ frac ++ e :: (sign' ++ digits)

theorem Digits.snoc {text : List Char} (htext : ∀ c ∈ text, c.isDigit = true) {c : Char}
    (hc : c.isDigit = true) : Digits (text ++ [c]) := by
  constructor
  · simp
  · intro d hd
    rcases List.mem_append.1 hd with hd | hd
    · exact htext d hd
    · rw [List.mem_singleton.1 hd]
      exact hc

theorem Digits.singleton {c : Char} (hc : c.isDigit = true) : Digits [c] := by
  simpa [Digits] using hc

theorem Phase.reads_next {phase phase' : Phase} {text : List Char} (htext : phase.Reads text) {c : Char}
    (hnext : phase.next c = some phase') : phase'.Reads (text ++ [c]) := by
  have hint : ∀ {sign : List Char}, (sign = [] ∨ sign = ['-']) → c ≠ '0' → c.isDigit = true →
      Phase.Reads .int (sign ++ [c]) := fun {sign} hsign hzero hdigit ↦
    ⟨sign, [c], hsign, ⟨Digits.singleton hdigit, by simpa using hzero⟩, rfl⟩
  cases phase with
  | start =>
    obtain rfl : text = [] := htext
    simp only [next] at hnext
    split_ifs at hnext with hminus hzero hdigit
    · obtain rfl := Option.some.inj hnext
      rw [hminus]
      rfl
    · obtain rfl := Option.some.inj hnext
      exact ⟨[], .inl rfl, by rw [hzero]⟩
    · obtain rfl := Option.some.inj hnext
      exact hint (.inl rfl) hzero hdigit
  | minus =>
    obtain rfl : text = ['-'] := htext
    simp only [next] at hnext
    split_ifs at hnext with hzero hdigit
    · obtain rfl := Option.some.inj hnext
      exact ⟨['-'], .inr rfl, by rw [hzero]⟩
    · obtain rfl := Option.some.inj hnext
      exact hint (.inr rfl) hzero hdigit
  | zero =>
    obtain ⟨sign, hsign, rfl⟩ := htext
    simp only [next] at hnext
    split_ifs at hnext with hpoint hexp
    · obtain rfl := Option.some.inj hnext
      exact ⟨sign, ['0'], hsign, .inl rfl, by rw [hpoint]⟩
    · obtain rfl := Option.some.inj hnext
      exact ⟨sign, ['0'], [], c, hsign, .inl rfl, .inl rfl, hexp, by simp⟩
  | int =>
    obtain ⟨sign, int, hsign, ⟨hdigits, hhead⟩, rfl⟩ := htext
    simp only [next] at hnext
    split_ifs at hnext with hdigit hpoint hexp
    · obtain rfl := Option.some.inj hnext
      refine ⟨sign, int ++ [c], hsign, ⟨Digits.snoc hdigits.2 hdigit, ?_⟩, by simp⟩
      rwa [List.head?_append_of_ne_nil _ hdigits.1]
    · obtain rfl := Option.some.inj hnext
      exact ⟨sign, int, hsign, .inr ⟨hdigits, hhead⟩, by rw [hpoint]⟩
    · obtain rfl := Option.some.inj hnext
      exact ⟨sign, int, [], c, hsign, .inr ⟨hdigits, hhead⟩, .inl rfl, hexp, by simp⟩
  | point =>
    obtain ⟨sign, int, hsign, hint, rfl⟩ := htext
    simp only [next] at hnext
    split_ifs at hnext with hdigit
    obtain rfl := Option.some.inj hnext
    exact ⟨sign, int, [c], hsign, hint, Digits.singleton hdigit, by simp⟩
  | frac =>
    obtain ⟨sign, int, digits, hsign, hint, hdigits, rfl⟩ := htext
    simp only [next] at hnext
    split_ifs at hnext with hdigit hexp
    · obtain rfl := Option.some.inj hnext
      exact ⟨sign, int, digits ++ [c], hsign, hint, Digits.snoc hdigits.2 hdigit, by simp⟩
    · obtain rfl := Option.some.inj hnext
      exact ⟨sign, int, '.' :: digits, c, hsign, hint, .inr ⟨digits, hdigits, rfl⟩, hexp, by simp⟩
  | exp =>
    obtain ⟨sign, int, frac, e, hsign, hint, hfrac, he, rfl⟩ := htext
    simp only [next] at hnext
    split_ifs at hnext with hdigit hsign'
    · obtain rfl := Option.some.inj hnext
      exact ⟨sign, int, frac, e, [], [c], hsign, hint, hfrac, he, .inl rfl, Digits.singleton hdigit, by simp⟩
    · obtain rfl := Option.some.inj hnext
      exact ⟨sign, int, frac, e, c, hsign, hint, hfrac, he, hsign', by simp⟩
  | sign =>
    obtain ⟨sign, int, frac, e, sign', hsign, hint, hfrac, he, hsign', rfl⟩ := htext
    simp only [next] at hnext
    split_ifs at hnext with hdigit
    obtain rfl := Option.some.inj hnext
    exact ⟨sign, int, frac, e, [sign'], [c], hsign, hint, hfrac, he, by simpa using hsign',
      Digits.singleton hdigit, by simp⟩
  | digits =>
    obtain ⟨sign, int, frac, e, sign', digits, hsign, hint, hfrac, he, hsign', hdigits, rfl⟩ := htext
    simp only [next] at hnext
    split_ifs at hnext with hdigit
    obtain rfl := Option.some.inj hnext
    exact ⟨sign, int, frac, e, sign', digits ++ [c], hsign, hint, hfrac, he, hsign',
      Digits.snoc hdigits.2 hdigit, by simp⟩

theorem Phase.isNumber_of_reads {phase : Phase} {text : List Char} (htext : phase.Reads text)
    (hfinal : phase.final = true) : IsNumber text := by
  cases phase with
  | zero =>
    obtain ⟨sign, hsign, rfl⟩ := htext
    exact ⟨sign, ['0'], [], [], hsign, .inl rfl, .inl rfl, .inl rfl, by simp⟩
  | int =>
    obtain ⟨sign, int, hsign, hint, rfl⟩ := htext
    exact ⟨sign, int, [], [], hsign, .inr hint, .inl rfl, .inl rfl, by simp⟩
  | frac =>
    obtain ⟨sign, int, digits, hsign, hint, hdigits, rfl⟩ := htext
    exact ⟨sign, int, '.' :: digits, [], hsign, hint, .inr ⟨digits, hdigits, rfl⟩, .inl rfl, by simp⟩
  | digits =>
    obtain ⟨sign, int, frac, e, sign', digits, hsign, hint, hfrac, he, hsign', hdigits, rfl⟩ := htext
    exact ⟨sign, int, frac, _, hsign, hint, hfrac, .inr ⟨e, sign', digits, he, hsign', hdigits, rfl⟩, by simp⟩
  | _ => exact nomatch hfinal

end Numbers

section Completeness

variable {text : List Char} {frames : List Frame} {place : Place} {v : Json}

/-- A value has been read; a number may still go on. -/
def Ended (s : State) (v : Json) (frames : List Frame) : Prop :=
  s = (.after v, frames) ∨
    ∃ phase number, phase.final = true ∧ v = .num number ∧ s = (.number phase number, frames)

/-- The characters that end a number. -/
def isDelimiter (c : Char) : Bool := isBlank c ∨ c = ',' ∨ c = ']' ∨ c = '\x7d'

theorem Phase.next_of_isDelimiter {c : Char} (hc : isDelimiter c = true) (phase : Phase) :
    phase.next c = none := by
  simp only [isDelimiter, isBlank, decide_eq_true_eq] at hc
  rcases hc with (rfl | rfl | rfl | rfl) | rfl | rfl | rfl <;> cases phase <;> rfl

theorem step_of_ended {s : State} (hs : Ended s v frames) {c : Char} (hc : isDelimiter c = true) :
    step s c = stepAfter v frames c := by
  rcases hs with rfl | ⟨phase, number, hfinal, rfl, rfl⟩
  · rfl
  · simp only [step, Phase.next_of_isDelimiter hc, hfinal, if_true]

theorem accepted_of_ended {s : State} (hs : Ended s v []) : accepted s = some v := by
  rcases hs with rfl | ⟨phase, number, hfinal, rfl, rfl⟩
  · rfl
  · simp [accepted, hfinal]

theorem run_blank_ended {s : State} (hs : Ended s v frames) (htext : Blank text) :
    ∃ s', run s text = some s' ∧ Ended s' v frames := by
  cases text with
  | nil => exact ⟨s, rfl, hs⟩
  | cons c text =>
    have hc : isBlank c = true := htext c List.mem_cons_self
    have hrest : Blank text := fun d hd ↦ htext d (List.mem_cons_of_mem c hd)
    have hstep : step s c = some (.after v, frames) := by
      rw [step_of_ended hs (by simp [isDelimiter, hc])]
      simp [stepAfter, hc]
    refine ⟨(.after v, frames), ?_, .inl rfl⟩
    rw [run_cons, hstep, Option.bind_some, run_blank_after hrest]

/-- The first character of a number. -/
theorem step_number {c : Char} {phase : Phase} (hc : Phase.start.next c = some phase) :
    step (.token none, frames) c = some (.number phase [c], frames) := by
  have hne (d : Char) (hd : Phase.start.next d = none) : c ≠ d := by
    rintro rfl
    rw [hd] at hc
    exact nomatch hc
  have hblank : isBlank c = false := by
    simp [isBlank, hne ' ' rfl, hne '\t' rfl, hne '\n' rfl, hne '\r' rfl]
  simp [step, stepValue, hblank, hne '"' rfl, hne '[' rfl, hne '\x7b' rfl, hne 'n' rfl, hne 't' rfl,
    hne 'f' rfl, hne ']' rfl, hc]

theorem run_number {phase phase' : Phase} {read : List Char} (htext : phase.run text = some phase') :
    run (.number phase read, frames) text = some (.number phase' (read ++ text), frames) := by
  induction text generalizing phase read with
  | nil =>
    obtain rfl := Option.some.inj htext
    simp
  | cons c text ih =>
    rw [Phase.run_cons] at htext
    obtain ⟨next, hnext, hrest⟩ := Option.bind_eq_some_iff.1 htext
    rw [run_cons, step, hnext, Option.bind_some, ih hrest]
    simp

theorem run_isNumber (htext : IsNumber text) :
    ∃ s, run (.token none, frames) text = some s ∧ Ended s (.num text) frames := by
  obtain ⟨phase, hrun, hfinal⟩ := Phase.run_isNumber htext
  cases text with
  | nil =>
    obtain rfl := Option.some.inj hrun
    exact nomatch hfinal
  | cons c text =>
    rw [Phase.run_cons] at hrun
    obtain ⟨next, hnext, hrest⟩ := Option.bind_eq_some_iff.1 hrun
    refine ⟨_, ?_, .inr ⟨phase, c :: text, hfinal, rfl, rfl⟩⟩
    rw [run_cons, step_number hnext, Option.bind_some, run_number hrest]
    rfl

theorem run_charText {n : ℕ} (htext : CharText text n) (units : List ℕ) :
    run (.chars place units, frames) text = some (.chars place (units ++ [n]), frames) := by
  cases htext with
  | @plain c hc =>
    have hplain := hc
    simp only [isPlain, decide_eq_true_eq] at hplain
    simp [step, hplain.1, hplain.2.1, hc]
  | @escape c n hc =>
    have hu : c ≠ 'u' := by
      rintro rfl
      cases hc
    simp [step, hc, hu]
  | @hex digits hlength hdigits =>
    obtain ⟨a, b, c, d, rfl⟩ := List.length_eq_four.1 hlength
    simp only [List.mem_cons, List.not_mem_nil, or_false, forall_eq_or_imp, forall_eq] at hdigits
    simp [step, hdigits]

theorem run_charsText {units : List ℕ} (htext : CharsText text units) :
    run (.chars place [], frames) text = some (.chars place units, frames) := by
  induction htext with
  | nil => rfl
  | snoc _ hnext ih => rw [run_append, ih, Option.bind_some, run_charText hnext]

/-- A string, with its quotes. -/
theorem run_stringBody {points : List ℕ} (htext : StringBody text points) :
    run (.token place, frames) ('"' :: text ++ ['"']) =
      some (place.elim (.after (.str points)) fun members ↦ .colon members points, frames) := by
  obtain ⟨units, hunits, rfl⟩ := htext
  have hopen : step (.token place, frames) '"' = some (.chars place [], frames) := by
    cases place <;> rfl
  rw [List.cons_append, run_cons, hopen, Option.bind_some, run_append, run_charsText hunits,
    Option.bind_some, run_cons, step]
  simp

theorem run_nameText {name : List ℕ} (htext : NameText text name) (members : List (List ℕ × Json)) :
    run (.token (some members), frames) text = some (.token none, .member members name :: frames) := by
  obtain ⟨before, body, after, hbefore, hbody, hafter, rfl⟩ := htext
  have hassoc : before ++ '"' :: body ++ '"' :: after ++ [':'] =
      before ++ (('"' :: body ++ ['"']) ++ (after ++ [':'])) := by simp
  rw [hassoc, run_append, run_blank_token hbefore, Option.bind_some, run_append, run_stringBody hbody,
    Option.bind_some, run_append, Option.elim_some, run_blank_colon hafter]
  rfl

/-- A value with blanks around it. -/
theorem run_item {before after : List Char} (hbefore : Blank before)
    (hvalue : ∃ s, run (.token none, frames) text = some s ∧ Ended s v frames) (hafter : Blank after) :
    ∃ s, run (.token none, frames) (before ++ text ++ after) = some s ∧ Ended s v frames := by
  obtain ⟨s, hrun, hs⟩ := hvalue
  obtain ⟨s', hrun', hs'⟩ := run_blank_ended hs hafter
  refine ⟨s', ?_, hs'⟩
  rw [List.append_assoc, run_append, run_blank_token hbefore, Option.bind_some, run_append, hrun,
    Option.bind_some, hrun']

theorem step_ended_array {s : State} {items : List Json} (hs : Ended s v (.array items :: frames)) :
    step s ',' = some (.token none, .array (items ++ [v]) :: frames) ∧
      step s ']' = some (.after (.arr (items ++ [v])), frames) := by
  rw [step_of_ended hs rfl, step_of_ended hs rfl]
  exact ⟨rfl, rfl⟩

theorem step_ended_member {s : State} {members : List (List ℕ × Json)} {name : List ℕ}
    (hs : Ended s v (.member members name :: frames)) :
    step s ',' = some (.token (some (members ++ [(name, v)])), frames) ∧
      step s '\x7d' = some (.after (.obj (members ++ [(name, v)])), frames) := by
  rw [step_of_ended hs rfl, step_of_ended hs rfl]
  exact ⟨rfl, rfl⟩

-- the derivation is followed; an array or object is read by reading its list
mutual

theorem run_value {text : List Char} {v : Json} (htext : Value text v) (frames : List Frame) :
    ∃ s, run (.token none, frames) text = some s ∧ Ended s v frames :=
  match htext with
  | .null => ⟨_, rfl, .inl rfl⟩
  | .true => ⟨_, rfl, .inl rfl⟩
  | .false => ⟨_, rfl, .inl rfl⟩
  | .num hnumber => run_isNumber hnumber
  | .str hbody => ⟨_, run_stringBody hbody, .inl rfl⟩
  | @Value.emptyArr blank hblank => by
    refine ⟨(.after (.arr []), frames), ?_, .inl rfl⟩
    have hopen : step (.token none, frames) '[' = some (.token none, .array [] :: frames) := rfl
    rw [List.cons_append, run_cons, hopen, Option.bind_some, run_append, run_blank_token hblank]
    rfl
  | @Value.arr body items helements => by
    obtain ⟨s, init, v, rfl, hrun, hs⟩ := run_elements helements frames
    refine ⟨(.after (.arr (init ++ [v])), frames), ?_, .inl rfl⟩
    have hopen : step (.token none, frames) '[' = some (.token none, .array [] :: frames) := rfl
    rw [List.cons_append, run_cons, hopen, Option.bind_some, run_append, hrun, Option.bind_some, run_cons,
      (step_ended_array hs).2]
    rfl
  | @Value.emptyObj blank hblank => by
    refine ⟨(.after (.obj []), frames), ?_, .inl rfl⟩
    have hopen : step (.token none, frames) '\x7b' = some (.token (some []), frames) := rfl
    rw [List.cons_append, run_cons, hopen, Option.bind_some, run_append, run_blank_token hblank]
    rfl
  | @Value.obj body members hmembers => by
    obtain ⟨s, init, name, v, rfl, hrun, hs⟩ := run_members hmembers frames
    refine ⟨(.after (.obj (init ++ [(name, v)])), frames), ?_, .inl rfl⟩
    have hopen : step (.token none, frames) '\x7b' = some (.token (some []), frames) := rfl
    rw [List.cons_append, run_cons, hopen, Option.bind_some, run_append, hrun, Option.bind_some, run_cons,
      (step_ended_member hs).2]
    rfl

theorem run_elements {text : List Char} {items : List Json} (htext : Elements text items)
    (frames : List Frame) : ∃ s init v, items = init ++ [v] ∧
      run (.token none, .array [] :: frames) text = some s ∧ Ended s v (.array init :: frames) :=
  match htext with
  | .single hbefore hvalue hafter => by
    obtain ⟨s, hrun, hs⟩ := run_item hbefore (run_value hvalue (.array [] :: frames)) hafter
    exact ⟨s, [], _, rfl, hrun, hs⟩
  | .snoc hfirst hbefore hvalue hafter => by
    obtain ⟨s, init, v, rfl, hrun, hs⟩ := run_elements hfirst frames
    obtain ⟨s', hrun', hs'⟩ :=
      run_item hbefore (run_value hvalue (.array (init ++ [v]) :: frames)) hafter
    refine ⟨s', init ++ [v], _, rfl, ?_, hs'⟩
    rw [run_append, hrun, Option.bind_some, run_cons, (step_ended_array hs).1, Option.bind_some, hrun']

theorem run_members {text : List Char} {members : List (List ℕ × Json)} (htext : Members text members)
    (frames : List Frame) : ∃ s init name v, members = init ++ [(name, v)] ∧
      run (.token (some []), frames) text = some s ∧ Ended s v (.member init name :: frames) :=
  match htext with
  | .single hname hbefore hvalue hafter => by
    obtain ⟨s, hrun, hs⟩ := run_item hbefore (run_value hvalue (.member [] _ :: frames)) hafter
    refine ⟨s, [], _, _, rfl, ?_, hs⟩
    rw [run_append, run_nameText hname, Option.bind_some, hrun]
  | .snoc hfirst hname hbefore hvalue hafter => by
    obtain ⟨s, init, name, v, rfl, hrun, hs⟩ := run_members hfirst frames
    obtain ⟨s', hrun', hs'⟩ :=
      run_item hbefore (run_value hvalue (.member (init ++ [(name, v)]) _ :: frames)) hafter
    refine ⟨s', init ++ [(name, v)], _, _, rfl, ?_, hs'⟩
    rw [run_append, hrun, Option.bind_some, run_cons, (step_ended_member hs).1, Option.bind_some, run_append,
      run_nameText hname, Option.bind_some, hrun']

end

/-- What the grammar has is read, with what it denotes. -/
theorem parse_of_document (htext : Document text v) : parse text = some v := by
  obtain ⟨before, body, after, hbefore, hbody, hafter, rfl⟩ := htext
  obtain ⟨s, hrun, hs⟩ := run_item hbefore (run_value hbody []) hafter
  rw [parse, hrun, Option.bind_some, accepted_of_ended hs]

end Completeness

end CoreEngine.Json
