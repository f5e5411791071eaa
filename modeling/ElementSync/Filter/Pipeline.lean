import ElementSync.Filter.Basic

/-!
# Pipelines of filters

Filters see fetched elements and changes to deploy in order, and applied changes in
the opposite order. The first failure ends a run; what the filters did so far stays.
-/
namespace ElementSync.Pipeline
variable {σ : Type}

def onFetch (client : Client σ) (context : FilterContext) :
    List Filter → List Element → Wire σ (Step (List Element) (List String))
  | [], es => return ⟨es, .ok []⟩
  | f :: fs, es => do
    let first ← f.onFetch client context es
    match first.result with
    | .error e => return ⟨first.left, .error e⟩
    | .ok warnings =>
      let rest ← onFetch client context fs first.left
      return ⟨rest.left, rest.result.map (warnings ++ ·)⟩

/-- Runs a hook of each filter in turn on the changes that the one before left. -/
def run (hook : List (Change Element) → Filter → Wire σ (Filter × Step (List (Change Element)) Unit)) :
    List Filter → List (Change Element) → Wire σ (List Filter × Step (List (Change Element)) Unit)
  | [], cs => return ([], ⟨cs, .ok ()⟩)
  | f :: fs, cs => do
    let (f, first) ← hook cs f
    match first.result with
    | .error e => return (f :: fs, ⟨first.left, .error e⟩)
    | .ok () =>
      let (fs, rest) ← run hook fs first.left
      return (f :: fs, rest)

def preDeploy (context : FilterContext) (fs : List Filter) (cs : List (Change Element)) :
    Wire σ (List Filter × Step (List (Change Element)) Unit) :=
  run (Filter.preDeploy context) fs cs

def onDeploy (fs : List Filter) (cs : List (Change Element)) :
    Wire σ (List Filter × Step (List (Change Element)) Unit) := do
  let (fs, last) ← run Filter.onDeploy fs.reverse cs
  return (fs.reverse, last)

end ElementSync.Pipeline
