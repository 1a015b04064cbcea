import FuzzDict.Cli.Session
/-!
# What a run of the command shows

A run whose command line names a grammar goes through two stages that can
fail, in order: loading the policy named by the environment, and reading the
grammar under that policy. Nothing reaches the standard output before both
have passed, so a failure of either leaves it empty, and the first failure
decides the run: a policy that cannot be had stops the run before the grammar
file is opened at all.

To see which files a run opens, the run reads through `openLogged`, which
keeps every path it opens. `run_outcome` states the three outcomes: a policy
failure (status 1, no output, only the policy file opened), a grammar failure
(status 1, no output), and success (status 0, the dictionary's text). It rests
on `runLogged_policy_error` and `runLogged_loaded`, which compute the run
after each outcome of the first stage.
-/

namespace FuzzDict.Cli

/-- Reads files from `fs`, keeping in the state every path opened, in order. -/
def openLogged (fs : String → Except ReadError (List UInt8)) (path : String) :
    StateM (List String) (Except ReadError (List UInt8)) := do
  modify (· ++ [path])
  pure (fs path)

/-- A run on the files `fs`, with the paths it opened, in order. -/
def runLogged (fs : String → Except ReadError (List UInt8)) (s : Setting) :
    Outcome × List String :=
  ((run (openLogged fs) s).run []).run

/-- The policy a run loads: the one in the file that the environment names, and
the Bison policy when it names none. -/
def loadPolicy (fs : String → Except ReadError (List UInt8)) :
    Option String → Except Failure Policy
  | none => .ok .bison
  | some q => Policy.ofFile q (fs q)

/-- The dictionary of a grammar whose bytes were read: the bytes must be UTF-8. -/
theorem readGrammar_ok {p : Policy} {path : String} {bs : List UInt8} :
    p.readGrammar path (.ok bs) =
      match Text.Utf8.decode bs with
      | none => .error (.grammar path .invalidUtf8)
      | some text => .ok (p.assemble (p.scan (Text.splitLines text))) := by
  simp only [Policy.readGrammar, Policy.extractBytes?]
  cases Text.Utf8.decode bs <;> rfl

section Stages

variable (fs : String → Except ReadError (List UInt8)) (s : Setting) {path : String}

/-- A policy that cannot be had ends the run with status 1 and no output, and
only the policy file was opened. -/
theorem runLogged_policy_error {q : String} {f : Failure}
    (args : Invocation.ofArgs s.args = .run path) (named : s.policyPath = some q)
    (failed : Policy.ofFile q (fs q) = .error f) :
    (runLogged fs s).1.exit = 1 ∧ (runLogged fs s).1.stdout = "" ∧ (runLogged fs s).2 = [q] := by
  simp [runLogged, run, args, named, openLogged, failed, Cli.failed]

/-- Once the policy is loaded, the run opens the grammar after the policy file,
and its status and output are those of reading the grammar. Either source of the
policy leads to the same grammar stage, which turns on opening the grammar and
decoding its bytes. -/
theorem runLogged_loaded {p : Policy} (args : Invocation.ofArgs s.args = .run path)
    (loaded : loadPolicy fs s.policyPath = .ok p) :
    (runLogged fs s).2 = s.policyPath.toList ++ [path] ∧
      (runLogged fs s).1.exit = (match p.readGrammar path (fs path) with
        | .ok _ => 0
        | .error _ => 1) ∧
      (runLogged fs s).1.stdout = (match p.readGrammar path (fs path) with
        | .ok d => d.text
        | .error _ => "") := by
  obtain ⟨args', _ | q, logSpec⟩ := s <;> simp only [loadPolicy, Except.ok.injEq] at loaded
  all_goals
    cases bytes : fs path with
    | error e => simp [runLogged, run, args, openLogged, bytes, loaded, Policy.readGrammar, failed]
    | ok bs =>
      cases decoded : Text.Utf8.decode bs <;>
        simp [runLogged, run, args, openLogged, bytes, loaded, readGrammar_ok, decoded, failed]

/-- A run that names the grammar `path` fails with status 1 and no output, having
opened the policy file alone, when the policy file named by the environment
cannot be had. Otherwise it opens the policy file, if any, then the grammar; it
fails with status 1 and no output when the grammar cannot be read under the
loaded policy, and succeeds with status 0 and the dictionary's text as its
output when it can. -/
theorem run_outcome (args : Invocation.ofArgs s.args = .run path) :
    (∀ q f, s.policyPath = some q → Policy.ofFile q (fs q) = .error f →
      (runLogged fs s).1.exit = 1 ∧ (runLogged fs s).1.stdout = "" ∧ (runLogged fs s).2 = [q]) ∧
    ∀ p, loadPolicy fs s.policyPath = .ok p →
      (runLogged fs s).2 = s.policyPath.toList ++ [path] ∧
      (∀ f, p.readGrammar path (fs path) = .error f →
        (runLogged fs s).1.exit = 1 ∧ (runLogged fs s).1.stdout = "") ∧
      ∀ d, p.readGrammar path (fs path) = .ok d →
        (runLogged fs s).1.exit = 0 ∧ (runLogged fs s).1.stdout = d.text := by
  refine ⟨fun q f named failed => runLogged_policy_error fs s args named failed, fun p loaded => ?_⟩
  obtain ⟨opened, exit, stdout⟩ := runLogged_loaded fs s args loaded
  refine ⟨opened, fun f grammar => ?_, fun d grammar => ?_⟩
  · simp [exit, stdout, grammar]
  · simp [exit, stdout, grammar]

end Stages

/-- A run on `g.y` when no file can be opened and no policy file is named. -/
theorem run_outcome_unreadable :
    Invocation.ofArgs ["g.y"] = .run "g.y" ∧
      (∀ q f, ({ args := ["g.y"] } : Setting).policyPath = some q →
        Policy.ofFile q ((fun _ => .error .notFound) q) = .error f →
        (runLogged (fun _ => .error .notFound) { args := ["g.y"] }).1.exit = 1 ∧
          (runLogged (fun _ => .error .notFound) { args := ["g.y"] }).1.stdout = "" ∧
          (runLogged (fun _ => .error .notFound) { args := ["g.y"] }).2 = [q]) ∧
      ∀ p, loadPolicy (fun _ => .error .notFound) ({ args := ["g.y"] } : Setting).policyPath =
          .ok p →
        (runLogged (fun _ => .error .notFound) { args := ["g.y"] }).2 =
            ({ args := ["g.y"] } : Setting).policyPath.toList ++ ["g.y"] ∧
          (∀ f, p.readGrammar "g.y" ((fun _ => .error .notFound) "g.y") = .error f →
            (runLogged (fun _ => .error .notFound) { args := ["g.y"] }).1.exit = 1 ∧
              (runLogged (fun _ => .error .notFound) { args := ["g.y"] }).1.stdout = "") ∧
          ∀ d, p.readGrammar "g.y" ((fun _ => .error .notFound) "g.y") = .ok d →
            (runLogged (fun _ => .error .notFound) { args := ["g.y"] }).1.exit = 0 ∧
              (runLogged (fun _ => .error .notFound) { args := ["g.y"] }).1.stdout = d.text :=
  ⟨by decide +kernel,
    run_outcome (fun _ => .error .notFound) { args := ["g.y"] } (by decide +kernel)⟩

end FuzzDict.Cli
