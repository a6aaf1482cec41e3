import Mathlib

/-!
# Amplifier.WasmStd.Access — who may call a handler, and whether it runs at all

Two pieces of `axelar-wasm-std` that guard the handlers of a contract:

* `permission_control` — a sender's role is a set of flags: `Admin` if it is
  the stored admin, `Governance` if it is the stored governance address, and
  `NoPrivilege` if it is neither. A message that requires a set of permissions
  (its *general* permission) accepts a sender whose role meets that set; `Any`
  accepts everyone without looking at the role (`ensureGeneral`);
* `killswitch` — a flag, engaged or disengaged, that a contract reads before a
  handler it can switch off. Engaging an engaged switch (or disengaging a
  disengaged one) leaves it as it is and emits nothing.

The *specific* permissions of `msgs-derive` (a whitelist the contract computes
from its own storage) are checked by each contract before its general one.
-/

namespace Amplifier.WasmStd

/-- `Permission`: the three flags of a `FlagSet<Permission>`. -/
inductive Permission where
  | noPrivilege
  | admin
  | governance
  deriving DecidableEq, Repr

namespace Permission

/-- `Permission::Elevated`. -/
def elevated : Finset Permission := {admin, governance}

/-- `Permission::Any`. -/
def any : Finset Permission := {noPrivilege, admin, governance}

end Permission

/-- `permission_control::sender_role`: `Admin` and `Governance` for the stored
addresses, and `NoPrivilege` only for a sender that has neither. -/
def senderRole (admin governance sender : String) : Finset Permission :=
  let role : Finset Permission :=
    {.noPrivilege} ∪ (if admin = sender then {.admin} else ∅) ∪
      (if governance = sender then {.governance} else ∅)
  if ¬Disjoint role Permission.elevated then role.erase .noPrivilege else role

/-- `permission_control::Error`. -/
inductive PermissionError where
  | generalPermissionDenied (expected actual : Finset Permission)
  | specificPermissionDenied (roles : List String)
  | whitelistNotFound (sender : String)
  | wrongVariant
  | unauthorized

/-- The general check of `ensure_permissions`: a permission containing `Any`
admits every sender; any other admits the senders whose role meets it. -/
def ensureGeneral (permission : Finset Permission) (admin governance sender : String) :
    Except PermissionError Unit :=
  if Permission.any ⊆ permission then .ok ()
  else
    let role := senderRole admin governance sender
    if Disjoint permission role then .error (.generalPermissionDenied permission role)
    else .ok ()

/-- Only the governance address has the `Governance` flag. -/
theorem governance_mem_senderRole {admin governance sender : String} :
    Permission.governance ∈ senderRole admin governance sender ↔ governance = sender := by
  unfold senderRole
  split_ifs <;> simp_all [Permission.elevated]

/-- Only the admin address has the `Admin` flag. -/
theorem admin_mem_senderRole {admin governance sender : String} :
    Permission.admin ∈ senderRole admin governance sender ↔ admin = sender := by
  unfold senderRole
  split_ifs <;> simp_all [Permission.elevated]

/-- A `Governance` message admits exactly the governance address. -/
theorem ensureGeneral_governance_eq_ok {admin governance sender : String} :
    ensureGeneral {.governance} admin governance sender = .ok () ↔ governance = sender := by
  have hany : ¬Permission.any ⊆ {Permission.governance} := by decide
  simp only [ensureGeneral, hany, if_false, Finset.disjoint_singleton_left,
    governance_mem_senderRole]
  split_ifs with h <;> simp_all

/-- An `Elevated` message admits exactly the admin and the governance address. -/
theorem ensureGeneral_elevated_eq_ok {admin governance sender : String} :
    ensureGeneral Permission.elevated admin governance sender = .ok () ↔
      admin = sender ∨ governance = sender := by
  have hany : ¬Permission.any ⊆ Permission.elevated := by decide
  simp only [ensureGeneral, hany, if_false]
  have hdisj : Disjoint Permission.elevated (senderRole admin governance sender) ↔
      ¬(admin = sender ∨ governance = sender) := by
    simp [Permission.elevated, Finset.disjoint_insert_left, admin_mem_senderRole,
      governance_mem_senderRole]
  split_ifs with h
  · simpa using hdisj.mp h
  · simp only [true_iff]
    by_contra hn
    exact h (hdisj.mpr hn)

/-- `killswitch::State`. -/
inductive Killswitch where
  | engaged
  | disengaged
  deriving DecidableEq, Repr

namespace Killswitch

/-- `killswitch::is_contract_active`. -/
def isContractActive (k : Killswitch) : Bool :=
  k = .disengaged

/-- `killswitch::engage`: the new state, and whether it changed (the event is
emitted only then). -/
def engage : Killswitch → Killswitch × Bool
  | .disengaged => (.engaged, true)
  | .engaged => (.engaged, false)

/-- `killswitch::disengage`. -/
def disengage : Killswitch → Killswitch × Bool
  | .engaged => (.disengaged, true)
  | .disengaged => (.disengaged, false)

end Killswitch

end Amplifier.WasmStd
