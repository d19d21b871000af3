import NetNode.Json.Lex

/-!
# Skipping a value

A value that a reader does not want (an unknown field of a record) is checked and skipped
without building it. Nesting is kept on an explicit stack of open brackets, so any depth is
skipped; the faults are those of reading, at the same places.
-/

namespace NetNode.Json

/-- Skip a scalar whose first character was seen: `some bracket` when it opens a container. -/
def skipScalar (ch : Char) (c : Cursor) : Except Failure (Option Char × Cursor) :=
  let c1 := c.bump
  if ch = 'n' then (c1.expectWord "ull".toList).map (none, ·)
  else if ch = 't' then (c1.expectWord "rue".toList).map (none, ·)
  else if ch = 'f' then (c1.expectWord "alse".toList).map (none, ·)
  else if ch = '-' then (skipNumber c1).map (none, ·)
  else if isDigit ch then (skipNumber c).map (none, ·)
  else if ch = '"' then (skipString c1).map (none, ·)
  else if ch = '[' ∨ ch = '{' then .ok (some ch, c1)
  else .error (c.failAhead .expectedValue)

/-- After a value inside the container `frame`: close containers while their closing bracket
follows, or stop before the next element (after its comma). `inl` is the end of the whole
value; `inr` carries the open containers, the innermost one and the cursor. -/
def skipClosing (stack : List Char) (acceptComma : Bool) (frame : Char) (c : Cursor) :
    Except Failure (Cursor ⊕ (List Char × Char × Cursor)) :=
  let c0 := c.skipBlank
  match c0.rest with
  | [] => .error (c0.failAhead (if frame = '[' then .eofList else .eofObject))
  | ch :: tl =>
    if ch = ',' ∧ acceptComma then .ok (.inr (stack, frame, c0.bump))
    else if (ch = ']' ∧ frame = '[') ∨ (ch = '}' ∧ frame = '{') then
      let c1 : Cursor := ⟨tl, c0.index + 1⟩
      match stack with
      | [] => .ok (.inl c1)
      | f :: st =>
        if _hc : c1.rest.length < c.rest.length then skipClosing st true f c1
        else .error (c1.failAhead .eofValue)
    else if acceptComma then
      .error (c0.failAhead (if frame = '[' then .expectedListCommaOrEnd else .expectedObjectCommaOrEnd))
    else .ok (.inr (stack, frame, c0))
termination_by c.rest.length

/-- The key and colon that open a member of an object. -/
def skipKey (c : Cursor) : Except Failure Cursor := do
  let c := c.skipBlank
  match c.peek? with
  | some '"' => pure ()
  | some _ => throw (c.failAhead .keyNotString)
  | none => throw (c.failAhead .eofObject)
  let c ← skipString c.bump
  let c := c.skipBlank
  match c.peek? with
  | some ':' => pure c.bump
  | some _ => throw (c.failAhead .expectedColon)
  | none => throw (c.failAhead .eofObject)

/-- Skip values until the outermost one is complete; `enclosing` is the container whose
member or element comes next, `stack` the containers around it. -/
def skipLoop (stack : List Char) (enclosing : Option Char) (c : Cursor) :
    Except Failure Cursor :=
  let c0 := c.skipBlank
  match c0.rest with
  | [] => .error (c0.failAhead .eofValue)
  | ch :: _ =>
    match skipScalar ch c0 with
    | .error e => .error e
    | .ok (opened, c1) =>
      let next : Option (Bool × Char × List Char) :=
        match opened, enclosing with
        | some f, some e => some (false, f, e :: stack)
        | some f, none => some (false, f, stack)
        | none, some e => some (true, e, stack)
        | none, none => match stack with
          | f :: st => some (true, f, st)
          | [] => none
      match next with
      | none => .ok c1
      | some (acceptComma, frame, stack) =>
        match skipClosing stack acceptComma frame c1 with
        | .error e => .error e
        | .ok (.inl done) => .ok done
        | .ok (.inr (stack, frame, c2)) =>
          let c3 := if frame = '{' then skipKey c2 else .ok c2
          match c3 with
          | .error e => .error e
          | .ok c3 =>
            if _hc : c3.rest.length < c.rest.length then skipLoop stack (some frame) c3
            else .error (c3.failAhead .eofValue)
termination_by c.rest.length

/-- Skip one whole value. -/
def skipValue (c : Cursor) : Except Failure Cursor := skipLoop [] none c

end NetNode.Json
