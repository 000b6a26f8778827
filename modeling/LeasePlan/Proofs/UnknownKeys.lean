import Mathlib
import LeasePlan.Proofs.OverlongDurations

namespace LeasePlan

theorem Issue.plainText_extra (path : List String) :
    plainText ⟨path, .extra⟩ = (if ".".intercalate path = "" then ""
      else ".".intercalate path ++ ": ") ++ "Extra inputs are not permitted" := by
  have hm : Problem.extra.message = "Extra inputs are not permitted" := rfl
  generalize "Extra inputs are not permitted" = m at hm ⊢
  by_cases h : ".".intercalate path = ""
  · rw [plainText, location, if_pos (String.isEmpty_iff.2 h), if_pos h, hm, String.empty_append]
  · rw [plainText, location, if_neg (mt String.isEmpty_iff.1 h), text, location, if_neg h, hm]

namespace Config

theorem parse_eq_of_issue {es : List (Data × Data)} {i : Issue}
    (hi : i ∈ (Data.mapping es).readConfig.issues) (hd : ¬ (Data.mapping es).HasOverlong)
    (source : Mention) :
    ∃ before after, parse source (.mapping es) = .error (loadFailure source
      ("; ".intercalate (before ++ i.plainText :: after))) := by
  obtain ⟨before, after, his⟩ := List.append_of_mem hi
  rw [← Failure.isSome_outOfRange?_readConfig_iff, Option.not_isSome_iff_eq_none] at hd
  refine ⟨before.map Issue.plainText, after.map Issue.plainText, ?_⟩
  rw [parse, Checked.eq_error_of_mem hi]
  dsimp only
  rw [hd]
  dsimp only
  rw [reasonOf, his, List.map_append, List.map_cons]

/-- The settings of an option with a code that is no number and a key that is misspelt. -/
def misspelt : List (Data × Data) :=
  [(.text "code", .text "x"), (.text "valeu", .text "lan")]

/-- IPv4 settings with such an option behind another one, and with an issue of their own. -/
def misspeltV4 : List (Data × Data) :=
  [(.text "lease_duration", .text "soon"),
    (.text "options", .list [.object [("code", .int 1)], .mapping misspelt])]

/-- A document with these settings and an issue behind them. -/
def misspeltDocument : Data :=
  .object [("interfaces", .object [("wan", .mapping [(.text "ipv4", .mapping misspeltV4)])]),
    ("enabled", .text "perhaps")]

end Config

end LeasePlan
