import CoreEngine.Json.Parser

/-!
# What the parser accepts

Every state of the machine stands for a part of a derivation: what has been read so far. So a text that is
accepted is in the grammar, and what takes the machine from a name to the end of a member is the rest of
an object.
-/

namespace CoreEngine.Json

section Soundness

/-- What has been read where a value or a name may come, without the blanks before it, since the machine
was started in the frames `start`. -/
inductive Before (start : List Frame) : Place → List Frame → List Char → Prop
  | start : Before start none start []
  | array {frames : List Frame} {text blank : List Char} (htext : Before start none frames text)
      (hblank : Blank blank) : Before start none (.array [] :: frames) (text ++ blank ++ ['['])
  | item {frames : List Frame} {text blank body : List Char} {items : List Json}
      (htext : Before start none frames text) (hblank : Blank blank) (hbody : Elements body items) :
      Before start none (.array items :: frames) (text ++ blank ++ '[' :: body ++ [','])
  | object {frames : List Frame} {text blank : List Char} (htext : Before start none frames text)
      (hblank : Blank blank) : Before start (some []) frames (text ++ blank ++ ['\x7b'])
  | next {frames : List Frame} {text blank body : List Char} {members : List (List ℕ × Json)}
      (htext : Before start none frames text) (hblank : Blank blank) (hbody : Members body members) :
      Before start (some members) frames (text ++ blank ++ '\x7b' :: body ++ [','])
  | rest {members more : List (List ℕ × Json)} {name : List ℕ} {body : List Char}
      (hstart : start = [.member members name]) (hbody : Rest name body more) :
      Before start (some (members ++ more)) [] (body ++ [','])
  | member {frames : List Frame} {text label : List Char} {members : List (List ℕ × Json)} {name : List ℕ}
      (htext : Before start (some members) frames text) (hname : NameText label name) :
      Before start none (.member members name :: frames) (text ++ label)

variable {start : List Frame}

/-- What has been read in a state. -/
def Reads (start : List Frame) : State → List Char → Prop
  | (.token place, frames), text => ∃ before blank, Before start place frames before ∧ Blank blank ∧
      text = before ++ blank
  | (.chars place units, frames), text => ∃ before blank body, Before start place frames before ∧
      Blank blank ∧ CharsText body units ∧ text = before ++ blank ++ '"' :: body
  | (.escape place units, frames), text => ∃ before blank body, Before start place frames before ∧
      Blank blank ∧ CharsText body units ∧ text = before ++ blank ++ '"' :: body ++ ['\\']
  | (.hex place units digits, frames), text => ∃ before blank body, Before start place frames before ∧
      Blank blank ∧ CharsText body units ∧ digits.length < 4 ∧ (∀ c ∈ digits, (hexDigit c).isSome) ∧
      text = before ++ blank ++ '"' :: body ++ '\\' :: 'u' :: digits
  | (.colon members name, frames), text => ∃ before blank body after, Before start (some members) frames before ∧
      Blank blank ∧ StringBody body name ∧ Blank after ∧
      text = before ++ (blank ++ '"' :: body ++ '"' :: after)
  | (.number phase number, frames), text => ∃ before blank, Before start none frames before ∧
      Blank blank ∧ phase.Reads number ∧ text = before ++ blank ++ number
  | (.literal literal read, frames), text => ∃ before blank, Before start none frames before ∧
      Blank blank ∧ read < literal.text.length ∧ text = before ++ blank ++ literal.text.take read
  | (.after v, frames), text => ∃ before blank body after, Before start none frames before ∧
      Blank blank ∧ Value body v ∧ Blank after ∧ text = before ++ blank ++ body ++ after

/-- The machine starts a text, or the value of a member of an outermost object. -/
def Root (start : List Frame) : Prop := start = [] ∨ ∃ members name, start = [.member members name]

/-- The frame that the machine was started in has been closed. -/
def Closed (start : List Frame) (s : State) : Prop := start ≠ [] ∧ ∃ v, s = (.after v, [])

theorem Blank.snoc {text : List Char} (htext : Blank text) {c : Char} (hc : isBlank c = true) :
    Blank (text ++ [c]) := by
  intro d hd
  rcases List.mem_append.1 hd with hd | hd
  · exact htext d hd
  · rw [List.mem_singleton.1 hd]
    exact hc

theorem Literal.value_text (literal : Literal) : Value literal.text literal.value := by
  cases literal with
  | null => exact .null
  | true => exact .true
  | false => exact .false

/-- The members of the innermost object once one more value is read, or of the frame of the start. -/
theorem before_member {members : List (List ℕ × Json)} {name : List ℕ} {frames : List Frame} {v : Json}
    {before blank body after : List Char} (hbefore : Before start none (.member members name :: frames) before)
    (hroot : Root start) (hblank : Blank blank) (hbody : Value body v) (hafter : Blank after) :
    (∃ text blank' body', Before start none frames text ∧ Blank blank' ∧
      Members body' (members ++ [(name, v)]) ∧
      before ++ blank ++ body ++ after = text ++ blank' ++ '\x7b' :: body') ∨
    ∃ first first' more, start = [.member first first'] ∧ frames = [] ∧
      Rest first' (before ++ blank ++ body ++ after) more ∧ first ++ more = members ++ [(name, v)] := by
  cases hbefore with
  | start =>
    right
    obtain rfl : frames = [] := by simpa [Root] using hroot
    have hrest : Rest name (blank ++ body ++ after) [(name, v)] := .value hblank hbody hafter
    exact ⟨members, name, [(name, v)], rfl, rfl, by simpa using hrest, rfl⟩
  | @member _ text label _ _ htext hname =>
    cases htext with
    | @object _ text blank' htext hblank' =>
      exact .inl ⟨text, blank', _, htext, hblank', .single hname hblank hbody hafter, by simp⟩
    | @next _ text blank' body' _ htext hblank' hbody' =>
      exact .inl ⟨text, blank', _, htext, hblank', .snoc hbody' hname hblank hbody hafter, by simp⟩
    | @rest first more first' body' hfirst hbody' =>
      have hrest := hbody'.snoc hname hblank hbody hafter
      exact .inr ⟨first, first', _, hfirst, rfl, by simpa using hrest, by simp⟩

/-- The items of the innermost array once one more value is read. -/
theorem before_array {items : List Json} {frames : List Frame} {v : Json} {before blank body after : List Char}
    (hbefore : Before start none (.array items :: frames) before) (hroot : Root start) (hblank : Blank blank)
    (hbody : Value body v) (hafter : Blank after) : ∃ text blank' body', Before start none frames text ∧
      Blank blank' ∧ Elements body' (items ++ [v]) ∧
      before ++ blank ++ body ++ after = text ++ blank' ++ '[' :: body' := by
  cases hbefore with
  | start => simp [Root] at hroot
  | @array _ text blank' htext hblank' =>
    exact ⟨text, blank', _, htext, hblank', .single hblank hbody hafter, by simp⟩
  | @item _ text blank' body' _ htext hblank' hbody' =>
    exact ⟨text, blank', _, htext, hblank', .snoc hbody' hblank hbody hafter, by simp⟩

/-- The character after a value. -/
theorem reads_stepAfter {frames : List Frame} {v : Json} {before blank body after : List Char} {c : Char}
    {s : State} (hroot : Root start) (hbefore : Before start none frames before) (hblank : Blank blank)
    (hbody : Value body v) (hafter : Blank after) (hstep : stepAfter v frames c = some s) :
    Reads start s (before ++ blank ++ body ++ after ++ [c]) ∨ Closed start s := by
  unfold stepAfter at hstep
  by_cases hc : isBlank c = true
  · rw [if_pos hc] at hstep
    obtain rfl := Option.some.inj hstep
    exact .inl ⟨before, blank, body, _, hbefore, hblank, hbody, hafter.snoc hc, by simp⟩
  · rw [if_neg hc] at hstep
    cases frames with
    | nil => exact nomatch hstep
    | cons frame frames =>
      cases frame with
      | array items =>
        obtain ⟨text, blank', body', htext, hblank', hbody', heq⟩ :=
          before_array hbefore hroot hblank hbody hafter
        rw [heq]
        simp only at hstep
        split_ifs at hstep with hcomma hclose
        · obtain rfl := Option.some.inj hstep
          rw [hcomma]
          exact .inl ⟨_, [], .item htext hblank' hbody', by simp [Blank], by simp⟩
        · obtain rfl := Option.some.inj hstep
          rw [hclose]
          exact .inl ⟨text, blank', _, [], htext, hblank', .arr hbody', by simp [Blank], by simp⟩
      | member members name =>
        simp only at hstep
        rcases before_member hbefore hroot hblank hbody hafter with
          ⟨text, blank', body', htext, hblank', hbody', heq⟩ | ⟨first, first', more, hfirst, rfl, hrest, hmore⟩
        · rw [heq]
          split_ifs at hstep with hcomma hclose
          · obtain rfl := Option.some.inj hstep
            rw [hcomma]
            exact .inl ⟨_, [], .next htext hblank' hbody', by simp [Blank], by simp⟩
          · obtain rfl := Option.some.inj hstep
            rw [hclose]
            exact .inl ⟨text, blank', _, [], htext, hblank', .obj hbody', by simp [Blank], by simp⟩
        · split_ifs at hstep with hcomma hclose
          · obtain rfl := Option.some.inj hstep
            rw [hcomma, ← hmore]
            exact .inl ⟨_, [], .rest hfirst hrest, by simp [Blank], by simp⟩
          · obtain rfl := Option.some.inj hstep
            exact .inr ⟨by simp [hfirst], _, rfl⟩

theorem Elements.ne_nil {text : List Char} {items : List Json} (htext : Elements text items) : items ≠ [] := by
  cases htext <;> simp

theorem Members.ne_nil {text : List Char} {members : List (List ℕ × Json)} (htext : Members text members) :
    members ≠ [] := by
  cases htext <;> simp

theorem Rest.ne_nil {name : List ℕ} {text : List Char} {members : List (List ℕ × Json)}
    (htext : Rest name text members) : members ≠ [] := by
  cases htext <;> simp

theorem Rest.exists_mem {name : List ℕ} {text : List Char} {members : List (List ℕ × Json)}
    (htext : Rest name text members) : ∃ v, (name, v) ∈ members := by
  induction htext with
  | @value _ _ _ v => exact ⟨v, by simp⟩
  | snoc _ _ _ _ _ ih =>
    obtain ⟨v, hv⟩ := ih
    exact ⟨v, by simp [hv]⟩

/-- An array without items has just been opened. -/
theorem before_emptyArr {frames : List Frame} {before : List Char} (hroot : Root start)
    (hbefore : Before start none (.array [] :: frames) before) : ∃ text blank, Before start none frames text ∧
      Blank blank ∧ before = text ++ blank ++ ['['] := by
  cases hbefore with
  | start => simp [Root] at hroot
  | array htext hblank => exact ⟨_, _, htext, hblank, rfl⟩
  | item _ _ hbody => exact absurd rfl hbody.ne_nil

/-- An object without members has just been opened. -/
theorem before_emptyObj {frames : List Frame} {before : List Char}
    (hbefore : Before start (some []) frames before) : ∃ text blank, Before start none frames text ∧
      Blank blank ∧ before = text ++ blank ++ ['\x7b'] := by
  generalize hplace : some [] = place at hbefore
  cases hbefore with
  | object htext hblank => exact ⟨_, _, htext, hblank, rfl⟩
  | next _ _ hbody => exact absurd (Option.some.inj hplace).symm hbody.ne_nil
  | rest _ hbody => exact absurd (List.append_eq_nil_iff.1 (Option.some.inj hplace).symm).2 hbody.ne_nil
  | _ => exact nomatch hplace

/-- The first character of a value. -/
theorem reads_stepValue {frames : List Frame} {before blank : List Char} {c : Char} {s : State}
    (hroot : Root start) (hbefore : Before start none frames before) (hblank : Blank blank)
    (hstep : stepValue frames c = some s) : Reads start s (before ++ blank ++ [c]) := by
  have hnone : Blank [] := by simp [Blank]
  unfold stepValue at hstep
  split_ifs at hstep with hquote harray hobject hn ht hf hclose
  · obtain rfl := Option.some.inj hstep
    exact ⟨before, blank, [], hbefore, hblank, .nil, by rw [hquote]⟩
  · obtain rfl := Option.some.inj hstep
    exact ⟨_, [], .array hbefore hblank, hnone, by simp [harray]⟩
  · obtain rfl := Option.some.inj hstep
    exact ⟨_, [], .object hbefore hblank, hnone, by simp [hobject]⟩
  · obtain rfl := Option.some.inj hstep
    exact ⟨before, blank, hbefore, hblank, by decide, by simp [hn, Literal.text]⟩
  · obtain rfl := Option.some.inj hstep
    exact ⟨before, blank, hbefore, hblank, by decide, by simp [ht, Literal.text]⟩
  · obtain rfl := Option.some.inj hstep
    exact ⟨before, blank, hbefore, hblank, by decide, by simp [hf, Literal.text]⟩
  · match frames, hbefore, hstep with
    | .array [] :: frames, hbefore, hstep =>
      obtain ⟨text, blank', htext, hblank', rfl⟩ := before_emptyArr hroot hbefore
      obtain rfl := Option.some.inj hstep
      exact ⟨text, blank', _, [], htext, hblank', .emptyArr hblank, hnone, by simp [hclose]⟩
  · obtain ⟨phase, hphase, rfl⟩ := Option.map_eq_some_iff.1 hstep
    have hstart : Phase.Reads .start [] := rfl
    exact ⟨before, blank, hbefore, hblank, Phase.reads_next hstart hphase, rfl⟩

theorem reads_stepName {frames : List Frame} {members : List (List ℕ × Json)} {before blank : List Char}
    {c : Char} {s : State} (hbefore : Before start (some members) frames before) (hblank : Blank blank)
    (hstep : stepName members frames c = some s) : Reads start s (before ++ blank ++ [c]) := by
  have hnone : Blank [] := by simp [Blank]
  unfold stepName at hstep
  split_ifs at hstep with hquote hclose
  · obtain rfl := Option.some.inj hstep
    exact ⟨before, blank, [], hbefore, hblank, .nil, by rw [hquote]⟩
  · cases members with
    | cons => exact nomatch hstep
    | nil =>
      obtain ⟨text, blank', htext, hblank', rfl⟩ := before_emptyObj hbefore
      obtain rfl := Option.some.inj hstep
      exact ⟨text, blank', _, [], htext, hblank', .emptyObj hblank, hnone, by simp [hclose]⟩

/-- One more character. -/
theorem reads_step {s s' : State} {text : List Char} {c : Char} (hroot : Root start)
    (htext : Reads start s text) (hstep : step s c = some s') :
    Reads start s' (text ++ [c]) ∨ Closed start s' := by
  have hnone : Blank [] := by simp [Blank]
  obtain ⟨mode, frames⟩ := s
  cases mode with
  | token place =>
    obtain ⟨before, blank, hbefore, hblank, rfl⟩ := htext
    simp only [step] at hstep
    split_ifs at hstep with hc
    · obtain rfl := Option.some.inj hstep
      exact .inl ⟨before, _, hbefore, hblank.snoc hc, by simp⟩
    · cases place with
      | none => exact .inl (reads_stepValue hroot hbefore hblank hstep)
      | some members => exact .inl (reads_stepName hbefore hblank hstep)
  | chars place units =>
    obtain ⟨before, blank, body, hbefore, hblank, hbody, rfl⟩ := htext
    simp only [step] at hstep
    split_ifs at hstep with hquote hescape hplain
    · obtain rfl := Option.some.inj hstep
      rw [hquote]
      cases place with
      | none =>
        exact .inl ⟨before, blank, _, [], hbefore, hblank, .str ⟨units, hbody, rfl⟩, hnone, by simp⟩
      | some members =>
        exact .inl ⟨before, blank, body, [], hbefore, hblank, ⟨units, hbody, rfl⟩, hnone, by simp⟩
    · obtain rfl := Option.some.inj hstep
      exact .inl ⟨before, blank, body, hbefore, hblank, hbody, by simp [hescape]⟩
    · obtain rfl := Option.some.inj hstep
      exact .inl ⟨before, blank, _, hbefore, hblank, hbody.snoc (.plain hplain), by simp⟩
  | escape place units =>
    obtain ⟨before, blank, body, hbefore, hblank, hbody, rfl⟩ := htext
    simp only [step] at hstep
    split_ifs at hstep with hu
    · obtain rfl := Option.some.inj hstep
      exact .inl ⟨before, blank, body, hbefore, hblank, hbody, by simp, by simp, by simp [hu]⟩
    · obtain ⟨n, hn, rfl⟩ := Option.map_eq_some_iff.1 hstep
      exact .inl ⟨before, blank, _, hbefore, hblank, hbody.snoc (.escape hn), by simp⟩
  | hex place units digits =>
    obtain ⟨before, blank, body, hbefore, hblank, hbody, hlength, hdigits, rfl⟩ := htext
    have hall (hc : (hexDigit c).isSome) : ∀ d ∈ digits ++ [c], (hexDigit d).isSome := by
      intro d hd
      rcases List.mem_append.1 hd with hd | hd
      · exact hdigits d hd
      · rwa [List.mem_singleton.1 hd]
    simp only [step] at hstep
    split_ifs at hstep with hc hthree
    · obtain rfl := Option.some.inj hstep
      exact .inl ⟨before, blank, _, hbefore, hblank, hbody.snoc (.hex (by simp [hthree]) (hall hc)), by simp⟩
    · obtain rfl := Option.some.inj hstep
      refine .inl ⟨before, blank, body, hbefore, hblank, hbody, ?_, hall hc, by simp⟩
      rw [List.length_append, List.length_singleton]
      omega
  | colon members name =>
    obtain ⟨before, blank, body, after, hbefore, hblank, hbody, hafter, rfl⟩ := htext
    simp only [step] at hstep
    split_ifs at hstep with hc hcolon
    · obtain rfl := Option.some.inj hstep
      exact .inl ⟨before, blank, body, _, hbefore, hblank, hbody, hafter.snoc hc, by simp⟩
    · obtain rfl := Option.some.inj hstep
      have hname : NameText (blank ++ '"' :: body ++ '"' :: after ++ [':']) name :=
        ⟨blank, body, after, hblank, hbody, hafter, rfl⟩
      exact .inl ⟨_, [], hbefore.member hname, hnone, by simp [hcolon]⟩
  | number phase number =>
    obtain ⟨before, blank, hbefore, hblank, hnumber, rfl⟩ := htext
    simp only [step] at hstep
    cases hnext : phase.next c with
    | some phase' =>
      rw [hnext] at hstep
      obtain rfl := Option.some.inj hstep
      exact .inl ⟨before, blank, hbefore, hblank, Phase.reads_next hnumber hnext, by simp⟩
    | none =>
      rw [hnext] at hstep
      simp only at hstep
      split_ifs at hstep with hfinal
      have hvalue : Value number (.num number) := .num (Phase.isNumber_of_reads hnumber hfinal)
      have hreads := reads_stepAfter hroot hbefore hblank hvalue hnone hstep
      rwa [List.append_nil] at hreads
  | literal literal read =>
    obtain ⟨before, blank, hbefore, hblank, hread, rfl⟩ := htext
    have htake (hc : literal.text[read]? = some c) :
        literal.text.take (read + 1) = literal.text.take read ++ [c] := by
      rw [List.take_add_one, hc]
      rfl
    simp only [step] at hstep
    split_ifs at hstep with hc hend
    · obtain rfl := Option.some.inj hstep
      have htext : literal.text.take read ++ [c] = literal.text := by
        rw [← htake hc]
        exact List.take_of_length_le (Nat.le_of_eq hend)
      refine .inl ⟨before, blank, literal.text, [], hbefore, hblank, literal.value_text, hnone, ?_⟩
      rw [List.append_nil, List.append_assoc _ _ [c], htext]
    · obtain rfl := Option.some.inj hstep
      refine .inl ⟨before, blank, hbefore, hblank, by omega, ?_⟩
      rw [htake hc, List.append_assoc _ _ [c]]
  | after v =>
    obtain ⟨before, blank, body, after, hbefore, hblank, hbody, hafter, rfl⟩ := htext
    exact reads_stepAfter hroot hbefore hblank hbody hafter hstep

/-- A closed frame stays closed. -/
theorem closed_step {s s' : State} {c : Char} (hs : Closed start s) (hstep : step s c = some s') :
    Closed start s' := by
  obtain ⟨hstart, v, rfl⟩ := hs
  simp only [step, stepAfter] at hstep
  split_ifs at hstep
  obtain rfl := Option.some.inj hstep
  exact ⟨hstart, v, rfl⟩

/-- What has been read when the machine has got through a text. -/
theorem reads_run {s : State} {text : List Char} (hroot : Root start)
    (hrun : run (.token none, start) text = some s) : Reads start s text ∨ Closed start s := by
  induction text using List.reverseRecOn generalizing s with
  | nil =>
    obtain rfl := Option.some.inj hrun
    exact .inl ⟨[], [], .start, by simp [Blank], rfl⟩
  | append_singleton text c ih =>
    rw [run_append] at hrun
    obtain ⟨mid, hmid, hlast⟩ := Option.bind_eq_some_iff.1 hrun
    have hstep : step mid c = some s := by simpa using hlast
    rcases ih hmid with hreads | hclosed
    · exact reads_step hroot hreads hstep
    · exact .inr (closed_step hclosed hstep)

/-- A value that has been read, with what stands before and after it. -/
theorem value_of_ended {s : State} {v : Json} {frames : List Frame} {text : List Char}
    (htext : Reads start s text) (hs : Ended s v frames) : ∃ before blank body after,
      Before start none frames before ∧ Blank blank ∧ Value body v ∧ Blank after ∧
      text = before ++ blank ++ body ++ after := by
  rcases hs with rfl | ⟨phase, number, hfinal, rfl, rfl⟩
  · exact htext
  · obtain ⟨before, blank, hbefore, hblank, hnumber, rfl⟩ := htext
    exact ⟨before, blank, number, [], hbefore, hblank, .num (Phase.isNumber_of_reads hnumber hfinal),
      by simp [Blank], by simp⟩

theorem ended_of_accepted {s : State} {v : Json} (hs : accepted s = some v) : Ended s v [] := by
  match s, hs with
  | (.after w, []), hs =>
    obtain rfl := Option.some.inj hs
    exact .inl rfl
  | (.number phase number, []), hs =>
    simp only [accepted] at hs
    split_ifs at hs with hfinal
    exact .inr ⟨phase, number, hfinal, (Option.some.inj hs).symm, rfl⟩

/-- What is read is in the grammar. -/
theorem document_of_parse {text : List Char} {v : Json} (hparse : parse text = some v) : Document text v := by
  obtain ⟨s, hrun, hs⟩ := Option.bind_eq_some_iff.1 hparse
  have hreads : Reads [] s text := by
    rcases reads_run (.inl rfl) hrun with hreads | hclosed
    · exact hreads
    · exact absurd rfl hclosed.1
  obtain ⟨before, blank, body, after, hbefore, hblank, hbody, hafter, rfl⟩ :=
    value_of_ended hreads (ended_of_accepted hs)
  cases hbefore with
  | start => exact ⟨blank, body, after, hblank, hbody, hafter, by simp⟩

theorem parse_eq_some_iff {text : List Char} {v : Json} : parse text = some v ↔ Document text v :=
  ⟨document_of_parse, parse_of_document⟩

/-- What is read from after a name to the end of a member of the same object. -/
theorem rest_of_run {members init : List (List ℕ × Json)} {name last : List ℕ} {text : List Char} {s : State}
    {v : Json} (hrun : run (.token none, [.member members name]) text = some s)
    (hs : Ended s v [.member init last]) : ∃ more, members ++ more = init ++ [(last, v)] ∧ Rest name text more := by
  have hroot : Root [.member members name] := .inr ⟨members, name, rfl⟩
  have hreads : Reads [.member members name] s text := by
    rcases reads_run hroot hrun with hreads | ⟨-, w, rfl⟩
    · exact hreads
    · rcases hs with hs | ⟨phase, number, -, -, hs⟩ <;> exact nomatch hs
  obtain ⟨before, blank, body, after, hbefore, hblank, hbody, hafter, rfl⟩ := value_of_ended hreads hs
  rcases before_member hbefore hroot hblank hbody hafter with
    ⟨text, blank', body', htext, -⟩ | ⟨first, first', more, hfirst, -, hrest, hmore⟩
  · exact nomatch htext
  · obtain ⟨rfl, rfl⟩ : members = first ∧ name = first' := by simpa using hfirst
    exact ⟨more, hmore, hrest⟩

end Soundness

section Boundaries

variable {s s' : State}

theorem step_literal {literal : Literal} {c : Char} (hc : c ∉ literal.text) (read : ℕ) (frames : List Frame) :
    step (.literal literal read, frames) c = none := by
  have hread : literal.text[read]? ≠ some c := fun hread ↦ hc (List.mem_of_getElem? hread)
  rw [step, if_neg hread]

/-- A line break is not in a string, a number or a literal. -/
theorem step_newline (hstep : step s '\n' = some s') :
    (∃ place frames, s = (.token place, frames) ∧ s' = s) ∨
      (∃ members name frames, s = (.colon members name, frames) ∧ s' = s) ∨
      ∃ v frames, Ended s v frames ∧ s' = (.after v, frames) := by
  obtain ⟨mode, frames⟩ := s
  cases mode with
  | token place => exact .inl ⟨place, frames, rfl, (Option.some.inj hstep).symm⟩
  | colon members name => exact .inr (.inl ⟨members, name, frames, rfl, (Option.some.inj hstep).symm⟩)
  | after v => exact .inr (.inr ⟨v, frames, .inl rfl, (Option.some.inj hstep).symm⟩)
  | number phase number =>
    have hnext : phase.next '\n' = none := Phase.next_of_isDelimiter rfl phase
    simp only [step, hnext] at hstep
    split_ifs at hstep with hfinal
    exact .inr (.inr ⟨_, frames, .inr ⟨phase, number, hfinal, rfl, rfl⟩, (Option.some.inj hstep).symm⟩)
  | literal literal read =>
    rw [step_literal (by cases literal <;> decide)] at hstep
    cases hstep
  | chars place units => cases hstep
  | escape place units => cases hstep
  | hex place units digits => cases hstep

/-- A comma is in a string, or after a value. -/
theorem step_comma (hstep : step s ',' = some s') : (∃ place units frames, s' = (.chars place units, frames)) ∨
    ∃ v frames, Ended s v frames ∧ stepAfter v frames ',' = some s' := by
  obtain ⟨mode, frames⟩ := s
  cases mode with
  | token place => cases place <;> cases hstep
  | colon members name => cases hstep
  | after v => exact .inr ⟨v, frames, .inl rfl, hstep⟩
  | number phase number =>
    have hnext : phase.next ',' = none := Phase.next_of_isDelimiter rfl phase
    simp only [step, hnext] at hstep
    split_ifs at hstep with hfinal
    exact .inr ⟨_, frames, .inr ⟨phase, number, hfinal, rfl, rfl⟩, hstep⟩
  | literal literal read =>
    rw [step_literal (by cases literal <;> decide)] at hstep
    cases hstep
  | chars place units => exact .inl ⟨place, _, frames, (Option.some.inj hstep).symm⟩
  | escape place units => cases hstep
  | hex place units digits => cases hstep

/-- An object is closed on a line of its own, at the end of a text. -/
theorem ended_of_close {members : List (List ℕ × Json)} {name : List ℕ} {text : List Char} {w : Json}
    (hrun : run (.token none, [.member members name]) text = some s)
    (hclose : (run s ['\n', '\x7d', '\n']).bind accepted = some w) :
    ∃ v init last, Ended s v [.member init last] ∧ w = .obj (init ++ [(last, v)]) := by
  obtain ⟨s', hrun', haccepted⟩ := Option.bind_eq_some_iff.1 hclose
  rw [run_cons] at hrun'
  obtain ⟨s₁, hfirst, hrest⟩ := Option.bind_eq_some_iff.1 hrun'
  rcases step_newline hfirst with ⟨place, frames, rfl, rfl⟩ | ⟨members, name, frames, rfl, rfl⟩ |
    ⟨v, frames, hs, rfl⟩
  · -- an object that has just been opened is not the outermost one
    match place, frames, hrest with
    | some [], [], hrest =>
      have hroot : Root [.member members name] := .inr ⟨members, name, rfl⟩
      rcases reads_run hroot hrun with ⟨before, blank, hbefore, -⟩ | ⟨-, v, hv⟩
      · obtain ⟨text, blank, htext, -⟩ := before_emptyObj hbefore
        exact nomatch htext
      · exact nomatch hv
    | some [], frame :: frames, hrest =>
      obtain rfl := Option.some.inj hrest
      exact nomatch haccepted
  · exact nomatch hrest
  · match frames, hs, hrest with
    | [.member init last], hs, hrest =>
      obtain rfl := Option.some.inj hrest
      exact ⟨v, init, last, hs, (Option.some.inj haccepted).symm⟩
    | .member init last :: frame :: frames, hs, hrest =>
      obtain rfl := Option.some.inj hrest
      exact nomatch haccepted

/-- A name after a comma belongs to an object. -/
theorem ended_of_name {label : List Char} {name : List ℕ} (hlabel : NameText label name)
    (hrun : run s (',' :: '\n' :: label) = some s') :
    ∃ v frames init last, Ended s v (.member init last :: frames) := by
  rw [run_cons] at hrun
  obtain ⟨s₁, hcomma, hrest⟩ := Option.bind_eq_some_iff.1 hrun
  rcases step_comma hcomma with ⟨place, units, frames, rfl⟩ | ⟨v, frames, hs, hafter⟩
  · exact nomatch hrest
  · match frames, hs, hafter with
    | .member init last :: frames, hs, _ => exact ⟨v, frames, init, last, hs⟩
    | .array items :: frames, hs, hafter =>
      obtain rfl := Option.some.inj hafter
      -- the name is read as an item, and the colon does not fit
      obtain ⟨before, body, after, hbefore, hbody, hblank, rfl⟩ := hlabel
      have hshape : '\n' :: (before ++ '"' :: body ++ '"' :: after ++ [':']) =
          ('\n' :: before) ++ (('"' :: body ++ ['"']) ++ (after ++ [':'])) := by simp
      have hnewline : Blank ('\n' :: before) := Blank.append (by decide : Blank ['\n']) hbefore
      rw [hshape, run_append, run_blank_token hnewline, Option.bind_some, run_append, run_stringBody hbody,
        Option.bind_some, run_append, Option.elim_none, run_blank_after hblank] at hrest
      exact nomatch hrest

end Boundaries

end CoreEngine.Json
