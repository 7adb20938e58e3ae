import XccdfPolicy.Result
import XccdfPolicy.Benchmark
import XccdfPolicy.Select
import XccdfPolicy.Value
import XccdfPolicy.Engine
import XccdfPolicy.Applicability
import XccdfPolicy.Rule
import XccdfPolicy.Evaluate
import XccdfPolicy.Score
import XccdfPolicy.Files
import XccdfPolicy.Resolve
import XccdfPolicy.Model
import XccdfPolicy.Stop
import XccdfPolicy.TestResult
import XccdfPolicy.Trace
import XccdfPolicy.Frame
