import Mathlib
import Harvest.Capture.Basic
import Harvest.Proofs.Catalog.Accounting
import Harvest.Proofs.Catalog.Application
import Harvest.Proofs.Text.Utf8

/-!
# Trying a definition

A definition can be tried on captured pages before it is put into the folder of a catalog.  The trial
tells what will become of it there, whatever else the folder holds: a defect is the error that loading
the folder reports for its file, and what is found on a page is what the catalog finds under the name
of the file.
-/

namespace Harvest

/-! ## Definitions without a type -/

/-- A definition compiles if its pages can be read and its gate and its fields compile. -/
theorem Extractor.compile_eq_ok_iff {d : Definition} {e : Extractor} :
    compile d = .ok e ↔ readsMime d.mime = true ∧ TextFilter.compile d.url = .ok e.gate ∧
      Plan.compile d.withRootType.field = .ok e.plan ∧ e.storage = d.storage := by
  obtain ⟨gate, plan, storage⟩ := e
  rw [compile]
  cases readsMime d.mime with
  | false => simp [throw, throwThe, MonadExceptOf.throw, bind, Except.bind]
  | true =>
      cases TextFilter.compile d.url with
      | error defect => simp [bind, Except.bind]
      | ok gate' =>
          cases Plan.compile d.withRootType.field with
          | error defect => simp [bind, Except.bind]
          | ok plan' => simp [bind, Except.bind, pure, Except.pure, eq_comm]

/-! ## Captured pages -/

namespace Definition

variable {d : Definition} {captures : List Capture}

end Definition

/-! ## What becomes of a file -/

namespace Catalog

open Directory
open Stored (seen)

variable {path : String} {d : Directory Bytes}

end Catalog

end Harvest
