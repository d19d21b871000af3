import NetNode.Json.Lex

/-!
# Reading a JSON document into a value

`Value.parse` reads one document with blanks around it. Arrays and objects may nest up to
127 levels; an object keeps its members sorted by key, and of two members with one key the
later one wins. Every fault carries the byte offset it was found at.
-/

namespace NetNode.Json

/-- Insert a member into fields sorted by key, replacing a member of the same key. -/
def insertSorted (key : String) (v : Value) : List (String × Value) → List (String × Value)
  | [] => [(key, v)]
  | (k, w) :: rest =>
    if key = k then (key, v) :: rest
    else if key < k then (key, v) :: (k, w) :: rest
    else (k, w) :: insertSorted key v rest

mutual

/-- Read one value; `depth` is how many more containers may open. -/
def readValue (depth : Nat) (c : Cursor) : Except Failure (Value × Cursor) :=
  let c0 := c.skipBlank
  match h : c0.rest with
  | [] => .error (c0.failAhead .eofValue)
  | ch :: tl =>
    let c1 : Cursor := ⟨tl, c0.index + ch.utf8Size⟩
    if ch = 'n' then (c1.expectWord "ull".toList).map fun c => (.null, c)
    else if ch = 't' then (c1.expectWord "rue".toList).map fun c => (.bool true, c)
    else if ch = 'f' then (c1.expectWord "alse".toList).map fun c => (.bool false, c)
    else if ch = '-' then (readNumber true c1).map fun (n, c) => (.num n, c)
    else if isDigit ch then (readNumber false c0).map fun (n, c) => (.num n, c)
    else if ch = '"' then (readString c1).map fun (s, c) => (.str s, c)
    else if ch = '[' then
      if depth ≤ 1 then .error (c0.failAhead .recursionLimit)
      else readItems (depth - 1) true [] c1
    else if ch = '{' then
      if depth ≤ 1 then .error (c0.failAhead .recursionLimit)
      else readFields (depth - 1) true [] c1
    else .error (c0.failAhead .expectedValue)
termination_by 2 * c.rest.length
decreasing_by
  all_goals
    have := Cursor.skipBlank_length_le c
    simp_all only [c0, List.length_cons]
    omega

/-- Read the elements of an array after its opening bracket, through its closing bracket. -/
def readItems (depth : Nat) (first : Bool) (acc : List Value) (c : Cursor) :
    Except Failure (Value × Cursor) :=
  let c0 := c.skipBlank
  match c0.rest with
  | [] => .error (c0.failAhead .eofList)
  | ch :: tl =>
    let next : Except Failure Cursor :=
      if ch = ']' then .error (c0.fail .trailingComma)
      else if ch = ',' ∧ !first then
        let c1 := (Cursor.mk tl (c0.index + 1)).skipBlank
        match c1.peek? with
        | some ']' => .error (c1.failAhead .trailingComma)
        | some _ => .ok c1
        | none => .error (c1.failAhead .eofValue)
      else if first then .ok c0
      else .error (c0.failAhead .expectedListCommaOrEnd)
    if ch = ']' then .ok (.arr acc.reverse, ⟨tl, c0.index + 1⟩)
    else match next with
      | .error e => .error e
      | .ok c1 =>
        if _hc : c1.rest.length + (if first then 0 else 1) ≤ c.rest.length then
          match readValue depth c1 with
          | .error e => .error e
          | .ok (v, c2) =>
            if _hd : c2.rest.length < c.rest.length then readItems depth false (v :: acc) c2
            else .error (c2.failAhead .eofList)
        else .error (c1.failAhead .eofList)
termination_by 2 * c.rest.length + 1
decreasing_by
  all_goals
    have := Cursor.skipBlank_length_le c
    split at _hc <;> omega

/-- Read the members of an object after its opening brace, through its closing brace. -/
def readFields (depth : Nat) (first : Bool) (acc : List (String × Value)) (c : Cursor) :
    Except Failure (Value × Cursor) :=
  let c0 := c.skipBlank
  match c0.rest with
  | [] => .error (c0.failAhead .eofObject)
  | ch :: tl =>
    if ch = '}' then .ok (.obj acc, ⟨tl, c0.index + 1⟩)
    else
      let start : Except Failure Cursor :=
        if ch = ',' ∧ !first then .ok (Cursor.mk tl (c0.index + 1)).skipBlank
        else if first then .ok c0
        else .error (c0.failAhead .expectedObjectCommaOrEnd)
      match start with
      | .error e => .error e
      | .ok c1 =>
        match c1.rest with
        | [] => .error (c1.failAhead .eofValue)
        | '"' :: rest =>
          match readString ⟨rest, c1.index + 1⟩ with
          | .error e => .error e
          | .ok (key, c2) =>
            let c3 := c2.skipBlank
            match c3.peek? with
            | some ':' =>
              if _hc : c3.bump.rest.length < c.rest.length then
                match readValue depth c3.bump with
                | .error e => .error e
                | .ok (v, c5) =>
                  if _hd : c5.rest.length < c.rest.length then
                    readFields depth false (insertSorted key v acc) c5
                  else .error (c5.failAhead .eofObject)
              else .error (c3.bump.failAhead .eofObject)
            | some _ => .error (c3.failAhead .expectedColon)
            | none => .error (c3.failAhead .eofObject)
        | '}' :: _ => .error (c1.failAhead .trailingComma)
        | _ :: _ => .error (c1.failAhead .keyNotString)
termination_by 2 * c.rest.length + 1
decreasing_by all_goals (simp only [c3] at *; omega)

end

/-- Read a whole document: one value with nothing but blanks after it. -/
def Value.parse (text : String) : Except Failure Value := do
  let (v, c) ← readValue 128 (Cursor.start text)
  let c := c.skipBlank
  match c.peek? with
  | none => pure v
  | some _ => throw (c.failAhead .trailingCharacters)

/-- Read a whole document, with a fault rendered as its message and position. -/
def Value.parseText (text : String) : Except String Value :=
  (Value.parse text).mapError (·.render text.toList)

end NetNode.Json
