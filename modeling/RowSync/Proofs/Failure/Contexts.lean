import Mathlib.Data.List.Induction
import RowSync.Failure

/-!
A failure in contexts is, to all that decide by it, the failure itself: the contexts are seen in its
text and in the chain of its causes only. The chain ends with what a driver tells of the causes below
its own failure, about which nothing is assumed.
-/

set_option autoImplicit false

namespace RowSync

namespace Failure

theorem exitCode_innermost (failure : Failure) : failure.innermost.exitCode = failure.exitCode := by
  induction failure with
  | context label cause ih => exact ih
  | _ => rfl

theorem isDuplicateKey_innermost (failure : Failure) :
    failure.innermost.isDuplicateKey = failure.isDuplicateKey := by
  induction failure with
  | context label cause ih => exact ih
  | _ => rfl

theorem innermost_ne_context (failure : Failure) (label : String) (cause : Failure) :
    failure.innermost ≠ context label cause := by
  induction failure with
  | context outer inner ih => exact ih
  | _ => nofun

theorem exitCode_ne_zero (failure : Failure) : failure.exitCode ≠ 0 := by
  induction failure with
  | context label cause ih => exact ih
  | _ => nofun

/-- The failure in one context after the other, the first of them innermost. -/
def wrapped (failure : Failure) (labels : List String) : Failure := labels.foldl within failure

section Wrapped

variable (failure : Failure) (labels : List String)

theorem wrapped_concat (label : String) :
    failure.wrapped (labels ++ [label]) = context label (failure.wrapped labels) := by
  simp [wrapped, within]

theorem innermost_wrapped : (failure.wrapped labels).innermost = failure.innermost := by
  induction labels using List.reverseRecOn with
  | nil => rfl
  | append_singleton labels label ih =>
    rw [wrapped_concat]
    exact ih

theorem message_context (label : String) (cause : Failure) :
    (context label cause).message = label ++ ": " ++ cause.message := rfl

theorem message_wrapped : (failure.wrapped labels).message =
    String.intercalate ": " (labels.reverse ++ [failure.message]) := by
  induction labels using List.reverseRecOn with
  | nil => simp [wrapped]
  | append_singleton labels label ih =>
    have some_text : labels.reverse ++ [failure.message] ≠ [] := by simp
    rw [wrapped_concat, message_context, ih, List.reverse_append, List.reverse_singleton,
      List.singleton_append, List.cons_append, String.intercalate_cons_of_ne_nil some_text]

end Wrapped

/-- The texts of the causes below the failure, outermost first, when those below one without a
context are told. -/
def causesBy (below : Failure → List String) : Failure → List String
  | context _ cause => cause.message :: cause.causesBy below
  | failure => below failure

/-- The failure with all its causes, when those below one without a context are told. -/
def detailedBy (below : Failure → List String) (failure : Failure) : String :=
  "Error: " ++ failure.message ++ "\n" ++ numberedCauses 1 (failure.causesBy below)

theorem causesBy_causes (failure : Failure) : failure.causesBy causes = failure.causes := by
  induction failure with
  | context label cause ih => exact congrArg (cause.message :: ·) ih
  | _ => rfl

theorem detailedBy_causes (failure : Failure) : failure.detailedBy causes = failure.detailed := by
  rw [detailedBy, causesBy_causes, detailed]

theorem causesBy_wrapped (below : Failure → List String) (failure : Failure)
    (labels : List String) : (failure.wrapped labels).causesBy below =
      ((List.range labels.length).reverse.map fun inner =>
        (failure.wrapped (labels.take inner)).message) ++ failure.causesBy below := by
  induction labels using List.reverseRecOn with
  | nil => rfl
  | append_singleton labels label ih =>
    have same : ∀ inner ∈ (List.range labels.length).reverse,
        (labels ++ [label]).take inner = labels.take inner := by
      intro inner member
      rw [List.mem_reverse, List.mem_range] at member
      exact List.take_append_of_le_length (Nat.le_of_lt member)
    rw [wrapped_concat, causesBy, ih, List.length_append, List.length_singleton,
      List.range_succ, List.reverse_append, List.reverse_singleton, List.singleton_append,
      List.map_cons, List.take_left, List.cons_append]
    congr 2
    exact List.map_congr_left fun inner member => by rw [same inner member]

theorem numberedCauses_nil (number : Nat) : numberedCauses number [] = "" := rfl

theorem numberedCauses_cons (number : Nat) (cause : String) (causes : List String) :
    numberedCauses number (cause :: causes) =
      s!"\nCaused by:\n  {number}: {cause}" ++ numberedCauses (number + 1) causes := rfl

theorem numberedCauses_eq (number : Nat) (causes : List String) :
    numberedCauses number causes = String.join ((causes.zipIdx number).map fun cause =>
      s!"\nCaused by:\n  {cause.2}: {cause.1}") := by
  induction causes generalizing number with
  | nil => rfl
  | cons cause causes ih =>
    rw [numberedCauses_cons, ih, List.zipIdx_cons, List.map_cons, String.join_cons]

end Failure

/-- The causes of a failure: failures that were put into contexts, and below them the errors of a
driver, each with the texts of those below it. -/
inductive Cause
  | known (failure : Failure)
  | foreign (text : String) (lower : List String)

namespace Cause

def text : Cause → String
  | known failure => failure.message
  | foreign text _ => text

/-- The errors of a driver as a cause, if there are any. -/
def ofTexts? : List String → Option Cause
  | [] => none
  | text :: lower => some (foreign text lower)

/-- What is right below a failure. -/
def ofFailure? (below : Failure → List String) : Failure → Option Cause
  | .context _ cause => some (known cause)
  | failure => ofTexts? (below failure)

/-- What is right below the cause. -/
def lower? (below : Failure → List String) : Cause → Option Cause
  | known failure => ofFailure? below failure
  | foreign _ lower => ofTexts? lower

/-- What is printed, followed by the causes from one on, the first behind that number, is the last
text. -/
inductive Prints (below : Failure → List String) : Option Cause → Nat → String → String → Prop
  | bottom (number : Nat) (printed : String) : Prints below none number printed printed
  | down {cause : Cause} {number : Nat} {printed last : String}
      (rest : Prints below (cause.lower? below) (number + 1)
        (printed ++ s!"\nCaused by:\n  {number}: {cause.text}") last) :
      Prints below (some cause) number printed last

variable {below : Failure → List String}

theorem Prints.unique {cause? : Option Cause} {number : Nat} {printed last last' : String}
    (one : Prints below cause? number printed last)
    (other : Prints below cause? number printed last') : last = last' := by
  induction one with
  | bottom number printed =>
    cases other
    rfl
  | down rest ih =>
    cases other with
    | down rest' => exact ih rest'

theorem prints_texts (texts : List String) (number : Nat) (printed : String) :
    Prints below (ofTexts? texts) number printed
      (printed ++ Failure.numberedCauses number texts) := by
  induction texts generalizing number printed with
  | nil =>
    rw [Failure.numberedCauses_nil, String.append_empty]
    exact .bottom number printed
  | cons text texts ih =>
    rw [Failure.numberedCauses_cons, ← String.append_assoc]
    exact .down (ih (number + 1) _)

/-- Going down from a failure comes to an end, and prints its causes one after the other. -/
theorem prints_causes (failure : Failure) (number : Nat) (printed : String) :
    Prints below (ofFailure? below failure) number printed
      (printed ++ Failure.numberedCauses number (failure.causesBy below)) := by
  induction failure generalizing number printed with
  | context label cause ih =>
    rw [Failure.causesBy, Failure.numberedCauses_cons, ← String.append_assoc]
    exact .down (ih (number + 1) _)
  | _ => exact prints_texts _ number printed

end Cause

namespace Failure

/-- Contexts around a failure change neither exit status nor what counts as a duplicate. They stand
in front of its text, from the outermost in. The detailed text is reached by going down the causes
to the last of them, whatever drivers have below their failures: it is the text of the whole, then
each cause behind its number, from the failure in all contexts but the outermost on. -/
theorem wrapped_transparent (failure : Failure) (labels : List String) :
    let whole := failure.wrapped labels
    whole.exitCode = failure.innermost.exitCode ∧
    whole.isDuplicateKey = failure.innermost.isDuplicateKey ∧
    whole.message = String.intercalate ": " (labels.reverse ++ [failure.message]) ∧
    whole.detailed = whole.detailedBy causes ∧
    ∀ below : Failure → List String,
      (∀ last, Cause.Prints below (Cause.ofFailure? below whole) 1
        ("Error: " ++ whole.message ++ "\n") last ↔ last = whole.detailedBy below) ∧
      whole.detailedBy below = "Error: " ++ whole.message ++ "\n" ++
        String.join (((whole.causesBy below).zipIdx 1).map fun cause =>
          s!"\nCaused by:\n  {cause.2}: {cause.1}") ∧
      whole.causesBy below = ((List.range labels.length).reverse.map fun inner =>
        (failure.wrapped (labels.take inner)).message) ++ failure.causesBy below := by
  intro whole
  refine ⟨?_, ?_, message_wrapped failure labels, whole.detailedBy_causes.symm, fun below =>
    ⟨fun last => ⟨fun prints => ?_, ?_⟩, ?_, causesBy_wrapped below failure labels⟩⟩
  · rw [← exitCode_innermost, innermost_wrapped]
  · rw [← isDuplicateKey_innermost, innermost_wrapped]
  · exact prints.unique (Cause.prints_causes whole 1 _)
  · rintro rfl
    exact Cause.prints_causes whole 1 _
  · rw [detailedBy, numberedCauses_eq]

-- Two contexts around a driver's failure that has one cause below.
example :
    (wrapped (.mysql (.server ⟨1000, "HY000", "gone"⟩)) ["reading", "copying"]).detailed =
      "Error: copying: reading: MySQL error: Server error: `ERROR HY000 (1000): gone'\n" ++
      "\nCaused by:\n  1: reading: MySQL error: Server error: `ERROR HY000 (1000): gone'" ++
      "\nCaused by:\n  2: MySQL error: Server error: `ERROR HY000 (1000): gone'" ++
      "\nCaused by:\n  3: Server error: `ERROR HY000 (1000): gone'" ++
      "\nCaused by:\n  4: ERROR HY000 (1000): gone" := by decide +kernel

end Failure

end RowSync
