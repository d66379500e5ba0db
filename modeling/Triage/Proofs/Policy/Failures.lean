import Triage.Proofs.Policy.Obstacles
import Triage.Proofs.Yaml.Origins
import Triage.Proofs.Yaml.Tokens

/-!
# Failures of written policies

The text of a policy document is refused with its problems, at least one, unless a scalar of it has no value
under its tag or the reading of its value stops at an obstacle. What is thrown there is a fault of another class.
-/

namespace Triage

namespace Yaml

/-- Only truth values, numbers and dates can be without a value. -/
theorem Node.Fails.tag {node : Node} {fault : ScalarFault} (fails : node.Fails fault) :
    node.tag ∈ [Tag.bool, .int, .float, .timestamp] := by
  obtain ⟨text, -, stopped⟩ := fails
  cases given : node.tag with
  | bool | int | float | timestamp => decide
  | binary =>
      rw [given, Tag.scalarValue] at stopped
      cases octets : Scalar.octets text with
      | error problem =>
          rw [octets] at stopped
          cases stopped
      | ok bytes =>
          rw [octets] at stopped
          cases stopped
  | _ =>
      rw [given] at stopped
      cases stopped

/-- A scalar that ends the tokens is part of one. -/
theorem ofToken_of_tokens {cs : List Char} {fault : ScalarFault} (ended : (tokens cs).2 = some (.scalar fault)) :
    fault.OfToken := by
  cases ofToken_tokens ended with
  | scalar kind => exact kind

end Yaml

namespace Policy

/-- A text gives a policy or its problems, at least one, exactly where no scalar of it stops the reading and its
value has no obstacle. A scalar stops it in the tokens, by the code of a character or the number of a version, or
as a node without a value under its tag. -/
theorem ofText_outcome (s : String) :
    ((∀ fault, Yaml.read s ≠ .error (.scalar fault)) ∧
      (∀ document, Yaml.read s = .ok document → ∀ stop, ¬Obstacle document stop) ∧
      ((∃ p, (ofText s).result = .ok p) ∨
        ∃ problems, problems ≠ [] ∧ (ofText s).result = .error (.policy problems))) ∨
    (∃ fault, Yaml.read s = .error (.scalar fault) ∧ (ofText s).result = .error (.scalar fault) ∧
      ((Yaml.tokens s.toList).2 = some (.scalar fault) ∧ fault.OfToken ∨
        ∃ root node, Yaml.Node.ofText s = .ok (some root) ∧ Yaml.Node.Within node root.unfold ∧
          node.Fails fault ∧ node.tag ∈ [Yaml.Tag.bool, .int, .float, .timestamp])) ∨
    ∃ document stop, Yaml.read s = .ok document ∧ Obstacle document stop ∧ (ofText s).result = .error stop ∧
      (stop.classOf = .value ∨ stop.classOf = .magnitude) := by
  rw [ofText]
  cases given : Yaml.read s with
  | error fault =>
      cases fault with
      | scalar fault =>
          refine .inr (.inl ⟨fault, rfl, rfl, ?_⟩)
          rcases Yaml.scalar_origin given with tokens | ⟨root, parsed, node, within, fails⟩
          · exact .inl ⟨tokens, Yaml.ofToken_of_tokens tokens⟩
          · exact .inr ⟨root, node, parsed, within, fails, fails.tag⟩
      | unacceptable code position =>
          refine .inl ⟨fun fault same => ?_, fun document same => ?_, .inr ⟨_, List.cons_ne_nil _ _, rfl⟩⟩
          · cases same
          · cases same
      | malformed problem mark =>
          refine .inl ⟨fun fault same => ?_, fun document same => ?_, .inr ⟨_, List.cons_ne_nil _ _, rfl⟩⟩
          · cases same
          · cases same
  | ok document =>
      have read : ∀ fault, (Except.ok document : Except Yaml.Fault Data) ≠ .error (.scalar fault) := by
        rintro fault ⟨⟩
      -- the reading ends at the first of the obstacles, which need not be this one
      by_cases blocked : ∃ stop, Obstacle document stop
      · obtain ⟨stop, obstacle⟩ := blocked
        obtain ⟨first, found, stopped⟩ := stop_of_obstacle obstacle
        exact .inr (.inr ⟨document, first, rfl, found, stopped, classOf_obstacle found⟩)
      · have free := not_exists.1 blocked
        refine .inl ⟨read, fun same given => ?_, answer_of_free free⟩
        cases given
        exact free

/-- A date without a month is a scalar that has no value under its tag. -/
theorem read_monthless : Yaml.read "2024-13-45" = .error (.scalar (.range .month)) := by
  have accepted : "2024-13-45".toList.findIdx? (!Yaml.isAcceptable ·) = none := by decide
  have parsed : Yaml.Node.ofText "2024-13-45" =
      .ok (some (.scalar 0 ⟨0, 0, 0⟩ .timestamp "2024-13-45")) := by rfl
  have value : Yaml.Tag.scalarValue .timestamp ⟨0, 0, 0⟩ "2024-13-45" = .error (.scalar (.range .month)) := by rfl
  have data : (Yaml.Node.scalar 0 ⟨0, 0, 0⟩ .timestamp "2024-13-45").data = .error (.scalar (.range .month)) := by
    simp [Yaml.Node.data, Yaml.Node.unfold, Yaml.Node.isCircular, Yaml.Node.outcomeAs, Yaml.Node.tag,
      Yaml.Tag.isCollection, value, Yaml.Outcome.leaf, Yaml.Outcome.failed]
  rw [Yaml.read, accepted, parsed]
  exact data

/-- The text of such a date gives neither a policy nor problems. -/
theorem monthless_is_not_answered : (¬∃ p, (ofText "2024-13-45").result = .ok p) ∧
    ¬∃ problems, (ofText "2024-13-45").result = .error (.policy problems) := by
  have stopped : (ofText "2024-13-45").result = .error (.scalar (.range .month)) := by
    rw [ofText, read_monthless]
    rfl
  simp [stopped]

end Policy

end Triage
