import DidRegistry.Biography.Basic

/-!
# Drafts of a biography

While a ledger is scanned the entries of a subject are collected at the end of a list.  The first
time that the biography is made out of them closes the list, whether it turns out well or not.
-/

set_option autoImplicit false

namespace DidRegistry

/-- A biography under construction. -/
structure BiographyDraft where
  variety : Variety
  subject : Json
  entries : List Entry
  /-- Whether the list is closed. -/
  isClosed : Bool
deriving DecidableEq, Repr

namespace BiographyDraft

/-- Why an entry is not taken. -/
inductive AppendError where
  /-- The list is closed. -/
  | closed
  | entry (error : EntryError)
deriving DecidableEq, Repr

/-- The report of the error. -/
def AppendError.report : AppendError → Report
  | .closed => .plain .state (say "biography already built; appends are closed")
  | .entry e => e.report

/-- Nothing collected yet. -/
def empty (variety : Variety) (subject : Json) : BiographyDraft :=
  ⟨variety, subject, [], false⟩

/-- Takes an entry at the end. -/
def append (b : BiographyDraft) (r : Entry) : Except AppendError BiographyDraft :=
  if b.isClosed then .error .closed else .ok { b with entries := b.entries ++ [r] }

/-- Reads an entry of the subject and takes it at the end. -/
def appendJson (b : BiographyDraft) (v : Json) :
    Except AppendError (Entry × BiographyDraft) :=
  match Entry.ofJson v b.subject with
  | .error e => .error (.entry e)
  | .ok r => (b.append r).map fun b' => (r, b')

/-- Closes the list and gives the biography, with the status that the entries imply unless one is
given. -/
def finish [Platform] (b : BiographyDraft) (status : Option Status) :
    Except BiographyError Biography × BiographyDraft :=
  let status := status.getD (Biography.impliedStatus b.variety b.entries)
  (Biography.checked ⟨b.variety, b.subject, status, b.entries⟩, { b with isClosed := true })

end BiographyDraft

end DidRegistry
