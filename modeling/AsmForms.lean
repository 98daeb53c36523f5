import AsmForms.Engine.Run
import AsmForms.Json.Format
import AsmForms.Proofs.Engine.Assignment
import AsmForms.Proofs.Aliasing
import AsmForms.Proofs.OutputShape
import AsmForms.Proofs.Pressure
import AsmForms.Proofs.Deletion
import AsmForms.Proofs.Refusal
import AsmForms.Proofs.Engine.Writing
import AsmForms.Proofs.Clobbers
import AsmForms.Proofs.Engine.Classes
import AsmForms.Proofs.Interference
import AsmForms.Proofs.Engine.Capacity
import AsmForms.Proofs.Template.Known
import AsmForms.Proofs.Capacity
import AsmForms.Proofs.SmallForms
import AsmForms.Proofs.Engine.Simulation
import AsmForms.Proofs.Fallback
import AsmForms.Proofs.Branches
import AsmForms.Proofs.Extension
import AsmForms.Proofs.Register.History
import AsmForms.Proofs.Log
import AsmForms.Proofs.ImplicitRegister
import AsmForms.Proofs.Splicing
import AsmForms.Proofs.Json.Spelling
import AsmForms.Proofs.Batch
import AsmForms.Proofs.Json.RoundTrip
import AsmForms.Proofs.Redefinition
import AsmForms.Proofs.Acceptance
import AsmForms.Proofs.Legibility
import AsmForms.Proofs.Json.Records
import AsmForms.Proofs.Register.Names
import AsmForms.Proofs.Register.Scan
import AsmForms.Proofs.Register.Agreement
