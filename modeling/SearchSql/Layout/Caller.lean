import SearchSql.Layout.Basic

/-!
# Parameters of the caller

Callers hand over parameters as a mapping, or as anything that goes through as pairs.
They are bound before anything of the statement is.

## Main definitions

* `Params.pairsOf` — the pairs that a value goes through as.
* `Layout.ofCaller` — the pieces that bind the parameters of a caller.
-/

namespace SearchSql

/-- The pair that a value goes through as. -/
def Params.pairOf (v : Value) : Checked (Value × Value) :=
  match v.elements? with
  | some [key, value] => if key.isKey then .ok (key, value) else .error (.misuse .kind)
  | some _ => .error (.misuse .meaningless)
  | none => .error (.misuse .kind)

/-- The pairs that a value goes through as: those of a mapping, or two elements of each
element. -/
def Params.pairsOf : Value → Checked Mapping
  | .map pairs => .ok pairs
  | v =>
    match v.elements? with
    | some elements => elements.mapM Params.pairOf
    | none => .error (.misuse .kind)

/-- The parameters that a mapping holds. -/
def Params.ofValue : Value → Checked Params
  | .map pairs => .ok ⟨Mapping.ofPairs pairs⟩
  | _ => .error (.misuse .kind)

/-- The pieces that bind the parameters of a caller, if any are given. -/
def Layout.ofCaller (v : Value) : Layout :=
  if v.truthy then
    match Params.pairsOf v with
    | .ok pairs => [.merge pairs]
    | .error f => [.fault f]
  else []

end SearchSql
