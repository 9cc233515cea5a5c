import AuthSigner.Ledger.Account

/-! Who may claim a balance, and when. -/
namespace AuthSigner
open Xdr

/-- A condition on the time of a claim. -/
inductive ClaimPredicate where
  | unconditional
  | and (predicates : List ClaimPredicate)
  | or (predicates : List ClaimPredicate)
  | not (predicate : Option ClaimPredicate)
  | beforeAbsoluteTime (time : Int64)
  | beforeRelativeTime (seconds : Int64)

namespace ClaimPredicate

mutual

/-- The canonical bytes of a condition. -/
def write : ClaimPredicate → Bytes
  | .unconditional => count 0
  | .and predicates => count 1 ++ (count predicates.length ++ writeAll predicates)
  | .or predicates => count 2 ++ (count predicates.length ++ writeAll predicates)
  | .not none => count 3 ++ count 0
  | .not (some predicate) => count 3 ++ (count 1 ++ predicate.write)
  | .beforeAbsoluteTime time => count 4 ++ Codec.i64.write time
  | .beforeRelativeTime seconds => count 5 ++ Codec.i64.write seconds
termination_by structural p => p

/-- Conditions one after the other. -/
def writeAll : List ClaimPredicate → Bytes
  | [] => []
  | p :: rest => p.write ++ writeAll rest
termination_by structural predicates => predicates

end

mutual

/-- Conjunctions and disjunctions have at most two parts. -/
def Fits : ClaimPredicate → Prop
  | .unconditional => True
  | .and predicates => predicates.length ≤ 2 ∧ AllFit predicates
  | .or predicates => predicates.length ≤ 2 ∧ AllFit predicates
  | .not none => True
  | .not (some predicate) => predicate.Fits
  | .beforeAbsoluteTime _ => True
  | .beforeRelativeTime _ => True
termination_by structural p => p

def AllFit : List ClaimPredicate → Prop
  | [] => True
  | p :: rest => p.Fits ∧ AllFit rest
termination_by structural predicates => predicates

end

/-- The alternatives of conditions, given the format of their parts. -/
def arms (inner : Codec ClaimPredicate) : List (Arm ClaimPredicate) := [
  .void 0 .unconditional fun | .unconditional => true | _ => false,
  .of 1 (.list 2 inner) .and fun | .and predicates => some predicates | _ => none,
  .of 2 (.list 2 inner) .or fun | .or predicates => some predicates | _ => none,
  .of 3 (.option inner) .not fun | .not predicate => some predicate | _ => none,
  .of 4 .i64 .beforeAbsoluteTime fun | .beforeAbsoluteTime time => some time | _ => none,
  .of 5 .i64 .beforeRelativeTime fun | .beforeRelativeTime seconds => some seconds | _ => none]

/-- The format of a condition, given the format of its parts. -/
def layer (inner : Codec ClaimPredicate) : Codec ClaimPredicate := .union (arms inner)

/-- Reads a condition of at most `depth` levels. -/
def read : Nat → Reader ClaimPredicate
  | 0 => Reader.fail .truncated
  | depth + 1 => (layer ⟨fun _ => [], fun _ => read depth, fun _ => True⟩).read depth

def codec : Codec ClaimPredicate := ⟨write, read, Fits⟩

end ClaimPredicate

/-- An account that may claim a balance, under a condition. -/
structure Claimant where
  destination : AccountId
  predicate : ClaimPredicate

/-- Claimants have one kind only, numbered zero. -/
def Claimant.codec : Codec Claimant :=
  (Codec.only 0 (AccountId.codec.pair ClaimPredicate.codec)).imap (fun (d, p) => ⟨d, p⟩)
    fun c => (c.destination, c.predicate)

end AuthSigner
