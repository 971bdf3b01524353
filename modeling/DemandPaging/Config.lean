import DemandPaging.PagingError
import DemandPaging.Replacement.Policy
import DemandPaging.Word

/-!
# Paging configuration

The limits of one address space and its replacement policy.
-/

namespace DemandPaging

/-- How an address space may use memory and swap. -/
structure Config where
  /-- The most pages in memory at a time. -/
  maxResident : Nat
  /-- The most pages in swap at a time. -/
  maxSwap : Nat
  policy : Policy
  deriving DecidableEq

namespace Config

/-- Pages in memory, of a space that asks for no other limit. -/
def standardResident : Nat := 16

/-- Pages in memory and in swap together, of such a space. -/
def standardTotal : Nat := 32

/-- Sixteen pages in memory and as many in swap, under the standard policy. -/
def standard : Config where
  maxResident := standardResident
  maxSwap := standardTotal - standardResident
  policy := Policy.standard

/-- The pages a space may have in all. -/
def capacity (config : Config) : Except Fatal Nat :=
  Word.add config.maxResident config.maxSwap

/-- A paging space needs room for a page in memory: without it no page could
ever be brought in. -/
def validate (config : Config) : Except PagingError Unit :=
  if config.policy.isPaging && config.maxResident == 0 then
    .error (.invalidConfig "max_resident must be at least 1")
  else
    .ok ()

theorem validate_eq_ok_iff {config : Config} :
    config.validate = .ok () ↔
      (config.policy.isPaging = true → 0 < config.maxResident) := by
  cases paging : config.policy.isPaging <;>
    simp [validate, paging, Nat.pos_iff_ne_zero]

end Config

end DemandPaging
