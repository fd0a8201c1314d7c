import LightingBus.Proofs.Format.RoundTrip
import LightingBus.Proofs.Payload.RoundTrip
import LightingBus.Responder.Handlers

/-!
# Reports of status messages

`Responder.takeStatuses_partition`: a report takes exactly the messages out of a list that are as
severe as was asked for, in their order, and leaves exactly the others. It is read back as the
messages that it took.

A list holds as many messages as fit into one report, so that the report is never full before the
list is at its end: the induction goes over the list with what is in the report already.
-/

namespace LightingBus

/-- The status type without the mark that the status has been cleared. -/
def StatusType.uncleared : StatusType → StatusType
  | .advisoryCleared => .advisory
  | .warningCleared => .warning
  | .errorCleared => .error
  | type => type

/-- A status that has been cleared is as severe as it was. -/
theorem StatusType.severity_eq (type : StatusType) : type.severity = type.uncleared.code := by
  cases type <;> rfl

/-- The message is at least as severe as the filter, whether it has been cleared or not. -/
def StatusMessage.isDue (filter : StatusType) (m : StatusMessage) : Bool :=
  filter.code ≤ m.type.uncleared.code

namespace Responder

open StatusMessage (isDue)

/-- As long as there is room for all of them, the messages that are due go behind those in the
report. -/
theorem takeStatuses_of_room (filter : StatusType) (messages : List StatusMessage) :
    ∀ data : ParameterData,
      data.bytes.length + messages.length * StatusMessage.size ≤ maxParameterLength →
      (takeStatuses filter.code messages data).1.bytes =
          data.bytes ++ (messages.filter (isDue filter)).flatMap StatusMessage.encode ∧
        (takeStatuses filter.code messages data).2 = messages.filter fun m => !isDue filter m := by
  induction messages with
  | nil => exact fun _ _ => ⟨(List.append_nil _).symm, rfl⟩
  | cons m messages ih =>
    intro data hroom
    rw [List.length_cons, Nat.succ_mul] at hroom
    rw [takeStatuses]
    split_ifs with hbelow
    · have hlater : isDue filter m = false := by
        rw [isDue, ← StatusType.severity_eq]
        exact decide_eq_false (UInt8.not_le.mpr hbelow)
      obtain ⟨htaken, hkept⟩ := ih data (by omega)
      rw [List.filter_cons_of_neg (by simp [hlater]), List.filter_cons_of_pos (by simp [hlater])]
      exact ⟨htaken, congrArg (m :: ·) hkept⟩
    · have hdue : isDue filter m = true := by
        rw [isDue, ← StatusType.severity_eq]
        exact decide_eq_true (UInt8.not_lt.mp hbelow)
      have hlength : (data.bytes ++ m.encode).length = data.bytes.length + StatusMessage.size := by
        rw [List.length_append, StatusMessage.length_encode]
      let longer : ParameterData := ⟨data.bytes ++ m.encode, by omega⟩
      have happend : data.append? m.encode = some longer :=
        ParameterData.append?_eq_some_iff.mpr rfl
      obtain ⟨htaken, hkept⟩ := ih longer (by dsimp only [longer]; omega)
      rw [happend, List.filter_cons_of_pos hdue, List.filter_cons_of_neg (by simp [hdue])]
      refine ⟨?_, hkept⟩
      rw [htaken, List.flatMap_cons, List.append_assoc]

/-- **A report takes what is due and leaves the rest.** Out of a list that a device can hold, the
report for a severity is made of the messages that are at least as severe, in their order; the
others stay in theirs. Together these are the messages there were, and the report is read back as
those it took. -/
theorem takeStatuses_partition (filter : StatusType) {messages : List StatusMessage}
    (hroom : messages.length ≤ maxStatusMessages) :
    let due := messages.filter (isDue filter)
    let out := takeStatuses filter.code messages .empty
    out.1.bytes = due.flatMap StatusMessage.encode ∧
      out.2 = messages.filter (fun m => !isDue filter m) ∧
      (due ++ out.2).Perm messages ∧
      decodeStatusMessages? out.1.bytes = some due := by
  intro due out
  have hfits : messages.length * StatusMessage.size ≤ maxParameterLength :=
    (Nat.mul_le_mul_right _ hroom).trans (by decide)
  have hempty : ParameterData.empty.bytes.length + messages.length * StatusMessage.size ≤
      maxParameterLength := by
    rw [ParameterData.empty, List.length_nil, Nat.zero_add]
    exact hfits
  obtain ⟨htaken, hkept⟩ := takeStatuses_of_room filter messages .empty hempty
  have hreport : out.1.bytes = due.flatMap StatusMessage.encode := htaken
  have hothers : out.2 = messages.filter fun m => !isDue filter m := hkept
  refine ⟨hreport, hothers, ?_, ?_⟩
  · rw [hothers]
    exact List.filter_append_perm (isDue filter) messages
  · rw [hreport]
    exact statusMessages_canonical.decode due ((List.length_filter_le _ _).trans hroom)

/-- As many messages as a device can hold: every third one is an advisory, and the others are errors
that have been cleared. -/
def crowd : List StatusMessage :=
  (List.range maxStatusMessages).map fun n =>
    ⟨0, if n % 3 = 0 then .advisory else .errorCleared, UInt16.ofNat n, 0, 0⟩

theorem takeStatuses_partition_crowd : crowd.length ≤ maxStatusMessages ∧
    (takeStatuses StatusType.warning.code crowd .empty).2.map StatusMessage.id =
      [0, 3, 6, 9, 12, 15, 18, 21, 24] ∧
    decodeStatusMessages? (takeStatuses StatusType.warning.code crowd .empty).1.bytes =
      some (crowd.filter fun m => m.type = .errorCleared) := by
  have hroom : crowd.length ≤ maxStatusMessages :=
    (List.length_map _).trans_le List.length_range.le
  obtain ⟨-, hkept, -, hread⟩ := takeStatuses_partition .warning hroom
  refine ⟨hroom, ?_, hread.trans ?_⟩
  · rw [hkept]
    decide +kernel
  · decide +kernel

end Responder

end LightingBus
