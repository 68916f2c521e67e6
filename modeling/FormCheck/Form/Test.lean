import FormCheck.Failure
import FormCheck.Form.Format
import FormCheck.Value.Member
import FormCheck.Value.Order

/-! # Tests of rules

Each rule comes to a test of a value. Most tests answer for every value; one that compares with an
argument of any kind may have no answer.
-/

namespace FormCheck

inductive Test where
  | email
  | phone
  | atLeastLong (n : Int)
  | atMostLong (n : Int)
  | atLeast (bound : Number.Numeral)
  | atMost (bound : Number.Numeral)
  | matches (entry : Entry)
  | equals (target : String)
  | lengthSuits (suits : Ordering → Bool) (bound : Value)
  | orderSuits (suits : Ordering → Bool) (bound : Value)
  | equalsAt (target : Value)

namespace Test

def hasLength (v : Value) (suits : Nat → Bool) : Bool :=
  match v with
  | .text s => suits s.length
  | _ => false

def settle (c : Number.Comparison) (suits : Ordering → Bool) : Except Fault Bool :=
  match c with
  | .ordered o => .ok (suits o)
  | .unordered => .ok false
  | .signals => .error .unanswered

def compares (v : Value) (bound : Number.Numeral) (suits : Ordering → Bool) : Except Fault Bool :=
  match v.number? with
  | none => .ok false
  | some n => settle (n.compare bound) suits

def ranks? (v bound : Value) (suits : Ordering → Bool) : Except Fault (Option Bool) :=
  match v.rank bound with
  | .compared c => (settle c suits).map some
  | .incomparable => .ok none

def same (v w : Value) : Except Fault Bool :=
  match v.equal? w with
  | some b => .ok b
  | none => .error .unanswered

def readAny (candidate name : Value) : Except Fault Value :=
  match name, candidate with
  | .text s, _ => .ok (candidate.read s)
  | _, .map entries =>
    if name.hashable then .ok ((Value.entry? entries name).getD .null) else .error .unhashable
  | _, _ => .error .memberNotText

def passes (t : Test) (v candidate : Value) : Except Fault Bool :=
  match t with
  | .email => .ok (Format.isEmail v)
  | .phone => .ok (Format.isUsPhone v)
  | .atLeastLong n => .ok (hasLength v fun length => n ≤ length)
  | .atMostLong n => .ok (hasLength v fun length => length ≤ n)
  | .atLeast bound => compares v bound (·.isGE)
  | .atMost bound => compares v bound (·.isLE)
  | .matches entry =>
    match v with
    | .text s => .ok (entry.matches s)
    | _ => .ok false
  | .equals target => same v (candidate.read target)
  | .lengthSuits suits bound =>
    match v with
    | .text s => do
      match ← ranks? (.int s.length) bound suits with
      | some passed => pure passed
      | none => .error .incomparable
    | _ => .ok false
  | .orderSuits suits bound => do
    let ranked ← ranks? v bound suits
    pure (ranked.getD false)
  | .equalsAt target => do
    let other ← readAny candidate target
    same v other

def ofLoose (rule : Rule) (kind : RuleKind) (argument : Value) : Except Fault Test :=
  match kind with
  | .email => .ok .email
  | .phone => .ok .phone
  | .minLength => .ok (.lengthSuits (·.isGE) argument)
  | .maxLength => .ok (.lengthSuits (·.isLE) argument)
  | .minValue => .ok (.orderSuits (·.isGE) argument)
  | .maxValue => .ok (.orderSuits (·.isLE) argument)
  | .regex => .error (.noPattern rule.describe)
  | .compiledRegex => .error (.noPattern rule.describe)
  | .matchField => .ok (.equalsAt argument)

def ofRule (rule : Rule) : Except Fault Test :=
  match rule with
  | .email => .ok .email
  | .phone => .ok .phone
  | .minLength n => .ok (.atLeastLong n)
  | .maxLength n => .ok (.atMostLong n)
  | .minValue bound => .ok (.atLeast bound)
  | .maxValue bound => .ok (.atMost bound)
  | .regex _ (some entry) => .ok (.matches entry)
  | .compiledRegex _ (some entry) => .ok (.matches entry)
  | .regex _ none => .error (.noPattern rule.describe)
  | .compiledRegex _ none => .error (.noPattern rule.describe)
  | .matchField target => .ok (.equals target)
  | .loose kind argument => ofLoose rule kind argument
  | .custom .email => .ok .email
  | .custom .phone => .ok .phone
  | .custom kind => .error (.noCheck kind)

end Test

end FormCheck
