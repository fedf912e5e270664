import GroupedReport.Data.DataSet
import GroupedReport.Proofs.Evaluation.Ensures
import GroupedReport.Proofs.Expression.Building
import Mathlib

/-!
# Runs that can be reached

A run begins with nothing kept. It goes on by evaluations of one program with any options, and by
dropping and storing values in between.
-/

namespace GroupedReport

open Expression

def Expression.Builder.engine (builder : Builder) (number : ProgramId) (options : Options) :
    Engine :=
  { program := .ofBuilder number builder, options }

@[simp] theorem Expression.Builder.nodes_engine (builder : Builder) (number : ProgramId)
    (options : Options) : (builder.engine number options).program.nodes = builder.nodes := rfl

namespace Run

inductive Step (program : Program) (run : Run) : Run → Prop
  | evaluate (options : Options) (kind : Kind) (id : NodeId) (row? : Option RowId) :
      Step program run ((Engine.evaluateAs ⟨program, options⟩ kind id row?).run run).2
  | invalidate (key : AggregateKey) : Step program run (run.invalidate key)
  | cross (boundary : Boundary) : Step program run (run.cross boundary)
  | reset : Step program run run.reset
  | setWorkState (owner name : String) (value : Value) :
      Step program run (run.setWorkState owner name value)

/-- Whether a run over some data can come about. -/
inductive Reached (program : Program) (data : DataSource) : Run → Prop
  | start : Reached program data (.start data)
  | step {before after : Run} :
      Reached program data before → before.Step program after → Reached program data after

end Run

theorem Engine.run_evaluateAs (engine : Engine) (kind : Kind) (id : NodeId) (row? : Option RowId)
    (run : Run) :
    (engine.evaluateAs kind id row?).run run =
      (((engine.native id row?).run run).1.bind fun value =>
          if kind = .object then .ok (if value.isAbsent then .null else value)
          else (value.readAs kind).mapError .conversion,
        ((engine.native id row?).run run).2) := by
  rw [evaluateAs]
  split
  · rw [evaluate, Evaluate.run_bind]
    rcases (engine.native id row?).run run with ⟨_ | value, after⟩ <;> rfl
  · rw [Evaluate.run_bind]
    rcases (engine.native id row?).run run with ⟨_ | value, after⟩
    · rfl
    · exact Evaluate.run_conversion _ after

theorem Engine.run_evaluateAs_snd (engine : Engine) (kind : Kind) (id : NodeId)
    (row? : Option RowId) (run : Run) :
    ((engine.evaluateAs kind id row?).run run).2 = ((engine.native id row?).run run).2 := by
  rw [run_evaluateAs]

/-! ## The greatest value of a column -/

namespace Expression.Builder

def greatest : Builder :=
  { nodes := #[.field 0 .int32, .aggregate .max 0 .default 0 .int32], nextKey := 1 }

theorem built_greatest : greatest.Built :=
  .step (.step .refl (.field 0 .int32)) (.aggregate .max 0 .default (by decide))

end Expression.Builder

def DataSet.seven : DataSet :=
  { name := "Numbers", columns := ["number"], rows := [[.int32 7]] }

namespace Run

def afterSeven : Run :=
  { data := DataSet.seven.source
    cache :=
      { entries := [(.aggregate 0, .int32 7)], stats.misses := 1, stats.stores := 1 }
    program? := some 0
    reads := 1 }

theorem reached_afterSeven :
    afterSeven.Reached (.ofBuilder 0 .greatest) DataSet.seven.source := by
  have step : Step (.ofBuilder 0 .greatest) (.start DataSet.seven.source) _ :=
    .evaluate {} .object 1 none
  have equal : ((Engine.evaluateAs ⟨.ofBuilder 0 .greatest, {}⟩ .object 1 none).run
      (.start DataSet.seven.source)).2 = afterSeven := by cbv
  rw [equal] at step
  exact .step .start step

end Run

end GroupedReport
