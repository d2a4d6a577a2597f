/-
# Settings

The settings that the modelled functions read.  The validator `_positive_int` refuses a
setting that is not positive; a `Settings` value carries what it has checked.
-/
import Mathlib.Algebra.Order.Field.Rat

namespace ImageDescriptor

/-- `app.config.Settings`, as far as the model reads it. -/
structure Settings where
  thumbnailMaxPixels : ℕ := 768
  cacheTtlSeconds : ℕ := 86400 * 30
  maxImageDownloadBytes : ℕ := 5 * 1024 * 1024
  maxImageRedirects : ℕ := 5
  requestTimeout : ℕ := 30
  supabaseReconnectBackoffBase : ℚ := 1
  supabaseReconnectBackoffMax : ℚ := 60
  jwksTtlSeconds : ℚ := 3600
  /-- `_positive_int` -/
  cacheTtlSeconds_pos : 0 < cacheTtlSeconds := by decide
  maxImageRedirects_pos : 0 < maxImageRedirects := by decide
  supabaseReconnectBackoffBase_pos : 0 < supabaseReconnectBackoffBase := by decide
  supabaseReconnectBackoffMax_pos : 0 < supabaseReconnectBackoffMax := by decide
  jwksTtlSeconds_pos : 0 < jwksTtlSeconds := by decide

/-- The settings of a deployment that overrides none of them. -/
def Settings.default : Settings := {}

end ImageDescriptor
