import Sentinel.Wire.Http

/-!
# The password policy of the login page

`policy` and `canSubmit` of `LoginPage`. JavaScript counts UTF-16 code units and
its expressions look at one unit at a time, so a character outside the basic
plane counts twice and matches none of them.
-/

namespace Sentinel.Dashboard

open Sentinel.Wire

/-- How many code units a character has. -/
def utf16Size (char : Char) : Nat := if char.toNat < 65536 then 1 else 2

/-- `password.length` -/
def utf16Length (text : String) : Nat := (text.toList.map utf16Size).sum

/-- The characters between the brackets of the expression for `special`. -/
def specialCharacters : List Char :=
  "!@#$%^&*()_+-=[]\x7b\x7d;':\",.<>/?~`|\\".toList

structure Policy where
  length : Bool
  upper : Bool
  lower : Bool
  digit : Bool
  special : Bool

/-- `policy` -/
def policy (password : String) : Policy where
  length := 12 ≤ utf16Length password
  upper := password.toList.any fun char => 'A' ≤ char ∧ char ≤ 'Z'
  lower := password.toList.any fun char => 'a' ≤ char ∧ char ≤ 'z'
  digit := password.toList.any fun char => '0' ≤ char ∧ char ≤ '9'
  special := password.toList.any fun char => char ∈ specialCharacters

/-- `policyMet` -/
def policyMet (password : String) : Nat :=
  let policy := policy password
  [policy.length, policy.upper, policy.lower, policy.digit, policy.special].count true

inductive Mode where
  | login
  | register
deriving DecidableEq

/-- `canSubmit` -/
def canSubmit (mode : Mode) (password : String) : Bool :=
  mode = .login || policyMet password = 5

/-- All five are met when each is. -/
theorem policyMet_eq_five_iff {password : String} :
    policyMet password = 5 ↔ (policy password).length ∧ (policy password).upper ∧
      (policy password).lower ∧ (policy password).digit ∧ (policy password).special := by
  have all := List.count_eq_length (a := true) (l := [(policy password).length,
    (policy password).upper, (policy password).lower, (policy password).digit,
    (policy password).special])
  refine all.trans ?_
  simp only [List.forall_mem_cons, List.not_mem_nil, false_imp_iff, implies_true, and_true,
    @eq_comm Bool true]

/-- No character is longer in UTF-16 than in UTF-8. -/
theorem utf16Size_le (char : Char) : utf16Size char ≤ char.utf8Size := by
  unfold utf16Size
  split
  · exact char.utf8Size_pos
  · rename_i wide
    have positive := char.utf8Size_pos
    have notOne : char.utf8Size ≠ 1 := by
      intro one
      have ascii : char.toNat ≤ 127 :=
        UInt32.le_iff_toNat_le.mp (Char.utf8Size_eq_one_iff.mp one)
      omega
    omega

/-- No text has more code units than it has bytes. -/
theorem utf16Length_le (text : String) : utf16Length text ≤ text.utf8ByteSize := by
  rw [← String.ofList_toList (s := text), utf8ByteSize_ofList, utf16Length, String.toList_ofList]
  generalize text.toList = chars
  induction chars with
  | nil => exact Nat.le_refl 0
  | cons char rest ih =>
      rw [List.map_cons, List.map_cons, List.sum_cons, List.sum_cons]
      exact Nat.add_le_add (utf16Size_le char) ih

end Sentinel.Dashboard
