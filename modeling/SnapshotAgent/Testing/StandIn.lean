/-!
# A stand-in tool program

A program that answers like the node tool without touching any node, deciding by the node's
name:

* `node job <n> info upload` reports a running job with 10 % done when `n` starts with `busy`,
  fails with exit code 2 and a corrupt state file when it starts with `broken`, and otherwise
  exits 1 saying the job is not found;
* `node run upload <n>` fails with exit code 3 when `n` starts with `fail`, and otherwise starts
  the upload;
* anything else exits 64.
-/

namespace SnapshotAgent.Testing

/-- How a finished process ended: its exit code and what it printed. -/
structure ProcessResult where
  code : Int
  stdout : String
  stderr : String
  deriving Repr, DecidableEq, Inhabited

/-- What the stand-in program does with its arguments. -/
def standIn : List String → ProcessResult
  | ["node", "job", n, "info", "upload"] =>
    if n.startsWith "busy" then
      ⟨0, "status:           2025-12-07 12:00:00 UTC| Running\n" ++
        "progress:         10.00% (1/10 uploading)\n", ""⟩
    else if n.startsWith "broken" then ⟨2, "", "fatal: state file corrupt\n"⟩
    else ⟨1, "", "Error: job 'upload' not found\n"⟩
  | ["node", "run", "upload", n] =>
    if n.startsWith "fail" then ⟨3, "", "cannot start upload\n"⟩ else ⟨0, "upload started\n", ""⟩
  | _ => ⟨64, "", ""⟩

end SnapshotAgent.Testing
