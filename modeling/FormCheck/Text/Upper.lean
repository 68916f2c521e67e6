import FormCheck.Text.Case

/-! # Upper case

The first code point of the upper-case form of a character. Most forms follow from the lower-case
mapping read backwards; the others, among them all forms of several characters, are listed.
-/

namespace FormCheck.Text

def upperExceptions : List CaseRun := [
  ⟨223, 223, 1, -140⟩, ⟨329, 329, 1, 371⟩, ⟨453, 453, 1, -1⟩, ⟨456, 456, 1, -1⟩, ⟨459, 459, 1, -1⟩,
  ⟨496, 496, 1, -422⟩, ⟨498, 498, 1, -1⟩, ⟨912, 912, 1, 9⟩, ⟨944, 944, 1, -11⟩,
  ⟨1415, 1415, 1, -82⟩, ⟨7830, 7830, 1, -7758⟩, ⟨7831, 7831, 1, -7747⟩, ⟨7832, 7832, 1, -7745⟩,
  ⟨7833, 7833, 1, -7744⟩, ⟨7834, 7834, 1, -7769⟩, ⟨8016, 8016, 1, -7083⟩, ⟨8018, 8018, 1, -7085⟩,
  ⟨8020, 8020, 1, -7087⟩, ⟨8022, 8022, 1, -7089⟩, ⟨8064, 8071, 1, -120⟩, ⟨8072, 8079, 1, -128⟩,
  ⟨8080, 8087, 1, -104⟩, ⟨8088, 8095, 1, -112⟩, ⟨8096, 8103, 1, -56⟩, ⟨8104, 8111, 1, -64⟩,
  ⟨8114, 8114, 1, 8⟩, ⟨8115, 8115, 1, -7202⟩, ⟨8116, 8116, 1, -7214⟩, ⟨8118, 8118, 1, -7205⟩,
  ⟨8119, 8119, 1, -7206⟩, ⟨8124, 8124, 1, -7211⟩, ⟨8130, 8130, 1, 8⟩, ⟨8131, 8131, 1, -7212⟩,
  ⟨8132, 8132, 1, -7227⟩, ⟨8134, 8134, 1, -7215⟩, ⟨8135, 8135, 1, -7216⟩, ⟨8140, 8140, 1, -7221⟩,
  ⟨8146, 8146, 1, -7225⟩, ⟨8147, 8147, 1, -7226⟩, ⟨8150, 8150, 1, -7229⟩, ⟨8151, 8151, 1, -7230⟩,
  ⟨8162, 8162, 1, -7229⟩, ⟨8163, 8163, 1, -7230⟩, ⟨8164, 8164, 1, -7235⟩, ⟨8166, 8166, 1, -7233⟩,
  ⟨8167, 8167, 1, -7234⟩, ⟨8178, 8178, 1, 8⟩, ⟨8179, 8179, 1, -7242⟩, ⟨8180, 8180, 1, -7269⟩,
  ⟨8182, 8182, 1, -7245⟩, ⟨8183, 8183, 1, -7246⟩, ⟨8188, 8188, 1, -7251⟩, ⟨64256, 64256, 1, -64186⟩,
  ⟨64257, 64257, 1, -64187⟩, ⟨64258, 64258, 1, -64188⟩, ⟨64259, 64259, 1, -64189⟩,
  ⟨64260, 64260, 1, -64190⟩, ⟨64261, 64261, 1, -64178⟩, ⟨64262, 64262, 1, -64179⟩,
  ⟨64275, 64275, 1, -62927⟩, ⟨64276, 64276, 1, -62928⟩, ⟨64277, 64277, 1, -62929⟩,
  ⟨64278, 64278, 1, -62920⟩, ⟨64279, 64279, 1, -62931⟩]

def upperCode (code : Nat) : Nat :=
  match upperExceptions.findSome? (·.image? code) with
  | some upper => upper
  | none =>
    let sources := (code :: lowerFamily code).flatMap fun l => caseRuns.filterMap (·.source? l)
    sources.head?.getD code

def CaseRun.meets (r : CaseRun) (low high : Nat) : Bool :=
  let least := max low r.first
  let next := least + (r.step - (least - r.first) % r.step) % r.step
  next ≤ min high r.last

def CaseRun.meetsImage (r : CaseRun) (low high : Nat) : Bool :=
  let shifted : CaseRun :=
    { r with first := (r.first + r.offset).toNat, last := (r.last + r.offset).toNat }
  shifted.meets low high

def anyCased (low high : Nat) : Bool :=
  caseRuns.any (fun r => r.meets low high || r.meetsImage low high) ||
    upperExceptions.any (·.meets low high) ||
    sharedUpper.any (·.any fun code => low ≤ code && code ≤ high)

end FormCheck.Text
