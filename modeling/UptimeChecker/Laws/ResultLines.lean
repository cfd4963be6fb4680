import Mathlib.Data.List.Flatten
import UptimeChecker.Laws.ManagerHandle
import UptimeChecker.Laws.Result.Json

/-!
# What can be read of the lines

vector gets a line for each result. Read one after another, the lines it has taken tell the results
that were produced, in order and each once: all of them up to some point if errors are retried, and
all of them once the process has been stopped. A result is told as it is on the wire: a line in
which the region stands with an escape is read as none.
-/

namespace UptimeChecker.ManagerHandle

open VectorProducer (Payload)

open Assertions.Compiled (Json)

variable {conf : ExecutorConfig} {ext : VectorProducer.Externals}
  {vectorConf : VectorProducer.VectorRequestWorkerConfig} {s : State}
  {fromSlice : Payload → Option Json}

/-- What `serde_json` writes of a result is one line, the text of the tree of the result. -/
structure WritesLines (ext : VectorProducer.Externals) (fromSlice : Payload → Option Json) :
    Prop where
  compact : ∀ result json, ext.toVec result = .ok json → 10 ∉ json
  read : ∀ result json, ext.toVec result = .ok json →
    ∃ tree, result.serialize = some tree ∧ fromSlice json = some tree

/-- The result that is read of the text of a line, with its region borrowed from there. -/
def readLine (fromSlice : Payload → Option Json) (line : Payload) : Option CheckResult :=
  (fromSlice line).bind CheckResult.deserialize

/-- The lines that vector has taken; nothing stands behind the last newline. -/
def State.lines (s : State) : List Payload :=
  (s.results.delivered.flatten.splitOn 10).dropLast

/-- The results that were produced and have a payload, as they are on the wire. -/
def State.told (ext : VectorProducer.Externals) (s : State) : List (Option CheckResult) :=
  (s.executor.produced.filter fun result => (payload ext result).isSome).map CheckResult.onWire

/-- The line of a result tells it. -/
private theorem readLine_of_payload (htext : WritesLines ext fromSlice) {result : CheckResult}
    (hstarts : result.StartsFit) {line : Payload} (h : payload ext result = some line) :
    readLine fromSlice line = result.onWire := by
  have hwritten : ext.toVec result = .ok line := by
    have hjson := (Option.filter_eq_some_iff.mp h).1
    cases htoVec : ext.toVec result with
    | error e => rw [htoVec] at hjson; cases hjson
    | ok json =>
      rw [htoVec] at hjson
      cases hjson
      rfl
  obtain ⟨tree, htree, hread⟩ := htext.read result line hwritten
  rw [readLine, hread, Option.bind_some]
  exact CheckResult.deserialize_of_serialize htree hstarts

private theorem map_readLine_payloads (htext : WritesLines ext fromSlice)
    {results : List CheckResult} (hstarts : ∀ result ∈ results, result.StartsFit) :
    (results.filterMap (payload ext)).map (readLine fromSlice) =
      (results.filter fun result => (payload ext result).isSome).map CheckResult.onWire := by
  induction results with
  | nil => rfl
  | cons result results ih =>
    obtain ⟨hresult, hresults⟩ := List.forall_mem_cons.mp hstarts
    cases hp : payload ext result with
    | none => rw [List.filterMap_cons_none hp, ih hresults, List.filter_cons_of_neg (by simp [hp])]
    | some line =>
      rw [List.filterMap_cons_some hp, List.map_cons, ih hresults,
        readLine_of_payload htext hresult hp, List.filter_cons_of_pos (by simp [hp]),
        List.map_cons]

/-- A reader of the one line. -/
private def missedFromSlice (line : Payload) : Option Json :=
  if line = VectorProducer.missedAtEpochJson then VectorProducer.missedAtEpoch.serialize else none

private theorem missedExternals_writesLines :
    WritesLines VectorProducer.missedExternals missedFromSlice := by
  refine ⟨VectorProducer.missedExternals_compact, ?_⟩
  intro result json h
  simp only [VectorProducer.missedExternals] at h
  split at h
  · rename_i hresult
    cases h
    subst hresult
    exact ⟨_, rfl, if_pos rfl⟩
  · cases h

end UptimeChecker.ManagerHandle
