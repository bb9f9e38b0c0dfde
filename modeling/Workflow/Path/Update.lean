import Workflow.Path.Basic
import Workflow.Json.Value
/-! # Reading and writing through a path

`Path.select` follows the segments: a name steps into an object, a position into an
array; any other pairing finds nothing.

`Path.set` writes a value at the place a path names and builds what is missing on the way:

* the empty path replaces the whole target;
* a `null` met where a segment must step (the target itself or a value on the way) becomes
  an empty container of the kind the segment needs: an object for a name, an array for a
  position;
* a name steps into an object, creating the field as `null`; a position on an object steps
  into the field named by its decimal digits;
* a position on an array steps into that item, padding the array with `null`s when it is
  past the end, by at most `maxPadding` of them in one step; further is `indexOutOfRange`;
* anything else (a position on an array is the only way into an array) is `notAContainer`,
  naming the segment that could not step.
-/

namespace Workflow

open Json

/-- The most `null`s one step of a write may add before the written item. -/
def maxPadding : Nat := 1024

namespace Segment

/-- The child a segment steps into, if it exists. -/
def get? : Value → Segment → Option Value
  | .obj fs, .key k => Fields.get? fs k
  | .arr xs, .index i => xs[i]?
  | _, _ => none

/-- The empty container a segment can step into. -/
def emptyContainer : Segment → Value
  | .key _ => .obj []
  | .index _ => .arr []

end Segment

/-- The value at the end of a list of segments. -/
def selectSegments : List Segment → Value → Option Value
  | [], v => some v
  | s :: rest, v => (s.get? v).bind (selectSegments rest)

/-- `xs` grown with `null`s to length `n` when it is shorter. -/
def padTo (xs : List Value) (n : Nat) : List Value :=
  xs ++ List.replicate (n - xs.length) .null

/-- Write `value` at the end of the segments inside `cur`; `raw` is the path's text for
error messages. -/
def writeSegments (raw : String) : List Segment → Value → Value → Except PathError Value
  | [], _, value => .ok value
  | s :: rest, cur, value =>
    let cur := if cur.isNull then s.emptyContainer else cur
    match cur, s with
    | .obj fs, .key k => do
      let child ← writeSegments raw rest ((Fields.get? fs k).getD .null) value
      return .obj (Fields.insert fs k child)
    | .obj fs, .index i => do
      let k := toString i
      let child ← writeSegments raw rest ((Fields.get? fs k).getD .null) value
      return .obj (Fields.insert fs k child)
    | .arr xs, .index i =>
      if xs.length ≤ i && i - xs.length > maxPadding then
        .error (.indexOutOfRange raw i xs.length)
      else do
        let ys := padTo xs (i + 1)
        let child ← writeSegments raw rest (ys[i]?.getD .null) value
        return .arr (ys.set i child)
    | _, s => .error (.notAContainer raw s.display)

namespace Path

/-- The value at the place a path names, if there is one. -/
def select (p : Path) (v : Value) : Option Value := selectSegments p.segments v

/-- The target with `value` written at the place the path names. -/
def set (p : Path) (target value : Value) : Except PathError Value :=
  writeSegments p.raw p.segments target value

end Path

/-- Read a path and select with it; finding nothing is `noMatch`. -/
def selectRequired (v : Value) (path : String) : Except PathError Value := do
  let p ← Path.parse path
  match p.select v with
  | some w => return w
  | none => throw (.noMatch path)

end Workflow
