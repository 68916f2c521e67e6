import FormCheck.Value

/-! # The order of values

Numbers are ordered by value, texts by code points, byte strings by bytes, and lists and tuples by
the first pair of items that are not equal, or by length if there is none. Values of other kinds,
and values of different kinds, have no order.
-/

namespace FormCheck.Value

inductive Ranking where
  | compared (c : Number.Comparison)
  | incomparable
  deriving DecidableEq, Repr, Inhabited

def Ranking.ordered (o : Ordering) : Ranking :=
  .compared (.ordered o)

def compareCodes : List Nat → List Nat → Ordering
  | [], [] => .eq
  | [], _ :: _ => .lt
  | _ :: _, [] => .gt
  | x :: xs, y :: ys => (compare x y).then (compareCodes xs ys)

mutual

def rankBy (deeper : Value → Value → Ranking) : Value → Value → Ranking
  | .text s, .text t =>
    .ordered (compareCodes (s.toList.map (·.toNat)) (t.toList.map (·.toNat)))
  | .bytes s, .bytes t => .ordered (compareCodes (s.map (·.toNat)) (t.map (·.toNat)))
  | .list xs, .list ys => rankItems deeper xs ys
  | .tuple xs, .tuple ys => rankItems deeper xs ys
  | v, w =>
    if v.isKnot || w.isKnot then deeper v w
    else match v.number?, w.number? with
      | some a, some b => .compared (a.compare b)
      | _, _ => .incomparable

def rankItems (deeper : Value → Value → Ranking) : List Value → List Value → Ranking
  | [], [] => .ordered .eq
  | [], _ :: _ => .ordered .lt
  | _ :: _, [] => .ordered .gt
  | v :: vs, w :: ws =>
    match asMembers v w (equal? v w) with
    | none => .compared .signals
    | some true => rankItems deeper vs ws
    | some false => rankBy deeper v w

end

def rankWithin : Nat → Value → Value → Ranking
  | 0 => fun _ _ => .compared .signals
  | n + 1 => rankBy fun v w => rankWithin n v.opened w.opened

def rank (v w : Value) : Ranking :=
  rankWithin (v.size * w.size + 1) v w

end FormCheck.Value
