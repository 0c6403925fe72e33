import Stepwise.Proofs.Child.Starting
import Stepwise.Proofs.Text.Lossy

/-! Output that is captured. A child may write any octets. Those that are a text come back as that
text, and so do those that are followed by anything else; where no character stands the octets are
replaced, one run at a time. What was captured once is captured the same again. -/
namespace Stepwise

namespace Child

open Text.Utf8 (Reads decode decodeLossy encode octets octets_eq)

variable {σ : Type} {host : Host σ}

theorem execute_captured {r : Request} (proper : r.Proper) {w w' : σ} {o : Outcome} {ms : Int}
    (started : host.start r w = (.ok o, w')) (clock : host.elapsedMs w w' = .ok ms) :
    (executor host true).execute r.command r.args r.context w =
      (.completed (o.completion true ms), w') := by
  have given : Request.fault? ⟨r.command, r.args, r.context⟩ = none :=
    Request.fault?_eq_none.mpr proper
  simp only [executor, given, started, clock]

theorem captured_eq_iff {bytes : List UInt8} {s : String} :
    captured bytes = s ↔ Reads bytes s.toList := by
  rw [Text.Utf8.reads_iff, captured, ← String.toList_inj, String.toList_ofList]

theorem captured_append (s : String) (bytes : List UInt8) :
    captured (octets s ++ bytes) = s ++ captured bytes := by
  rw [captured, octets_eq, Text.Utf8.decodeLossy_flatMap, String.ofList_append, String.ofList_toList,
    captured]

theorem captured_octets (s : String) : captured (octets s) = s := by
  have empty : captured [] = "" := captured_eq_iff.mpr .done
  rw [← List.append_nil (octets s), captured_append, empty, String.append_empty]

theorem decode_eq_ok_iff {bytes : List UInt8} {s : String} :
    decode bytes = .ok s.toList ↔ bytes = octets s := by
  rw [decode, Text.Utf8.decodeFrom_eq_ok, octets_eq]

/-- Whatever a child wrote is captured, and nothing that is text in it is altered. -/
theorem captured_faithful (host : Host σ) {r : Request} (proper : r.Proper) {w w' : σ}
    {o : Outcome} {ms : Int} (started : host.start r w = (.ok o, w'))
    (clock : host.elapsedMs w w' = .ok ms) :
    (executor host true).execute r.command r.args r.context w =
      (.completed ⟨o.exitCode, some (captured o.stdout), some (captured o.stderr), ms⟩, w') ∧
    (∀ bytes s, captured bytes = s ↔ Reads bytes s.toList) ∧
    (∀ p s, decode p = .ok s.toList ↔ p = octets s) ∧
    (∀ s, captured (octets s) = s) ∧
    (∀ s bytes, captured (octets s ++ bytes) = s ++ captured bytes) ∧
    (∀ bytes, captured (octets (captured bytes)) = captured bytes) ∧
    ∀ s, Text.hasLone s = false → encode s.toList = octets s := by
  refine ⟨?_, ?_, ?_, captured_octets, captured_append, ?_, ?_⟩
  · exact execute_captured proper started clock
  · exact fun _ _ => captured_eq_iff
  · exact fun _ _ => decode_eq_ok_iff
  · exact fun bytes => captured_octets (captured bytes)
  · exact fun _ => Text.Utf8.encode_eq_octets

def writing (stdout stderr : List UInt8) : Host Unit where
  start _ w := (.ok ⟨0, stdout, stderr⟩, w)
  isDirectory _ _ := true
  elapsedMs _ _ := .ok 0

/-- A text with an octet after it that is none, and a character that is cut off. -/
theorem captured_faithful_cut :
    let r : Request := ⟨"cat", ["log"], ⟨.ofString "/src", ∅⟩⟩
    let o : Outcome := ⟨0, octets "hé" ++ [0xff], [0xe2, 0x82]⟩
    let host := writing o.stdout o.stderr
    r.Proper ∧ host.start r () = (.ok o, ()) ∧ host.elapsedMs () () = .ok 0 ∧
    ((executor host true).execute r.command r.args r.context ()).1 =
      .completed ⟨0, some "hé\ufffd", some "\ufffd", 0⟩ := by
  intro r o host
  have proper : r.Proper := Request.fault?_eq_none.mp (by decide)
  refine ⟨proper, rfl, rfl, ?_⟩
  obtain ⟨result, -, -, -, before, -⟩ := captured_faithful host proper (o := o) rfl rfl
  have outside : captured [0xff] = "\ufffd" := by simp [captured, decodeLossy, Text.Utf8.next]
  have cut : captured [0xe2, 0x82] = "\ufffd" := by
    simp [captured, decodeLossy, Text.Utf8.next, Text.Utf8.isSecond, Text.Utf8.isTail]
  rw [result, before, outside, cut]
  rfl

end Child

end Stepwise
