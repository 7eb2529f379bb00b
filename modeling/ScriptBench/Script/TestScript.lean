import ScriptBench.Json.Printer
import ScriptBench.Markers
import ScriptBench.Script.Template

/-! The script that runs a test against a main program and prints its result as a payload. -/
namespace ScriptBench.Script

def testRows : List String :=
  ["import builtins as _pr_builtins",
   "import contextlib as _pr_contextlib",
   "import io as _pr_io",
   "import json as _pr_json",
   "import traceback as _pr_traceback",
   "",
   "_PR_NAME = __NAME__",
   "_PR_FUNCTION = __FUNCTION__",
   "_PR_MAIN = __MAIN__",
   "_PR_TEST = __TEST__",
   "_PR_USER_FILES = (\"<main>\", \"<test>\")",
   "# KeyboardInterrupt stays uncaught so a timeout reaches the host.",
   "_PR_CAUGHT = (Exception, SystemExit)",
   "",
   "",
   "def _pr_describe(exc):",
   "    frames = [",
   "        frame",
   "        for frame in _pr_traceback.extract_tb(exc.__traceback__)",
   "        if frame.filename in _PR_USER_FILES",
   "    ]",
   "    lines = _pr_traceback.format_list(frames) if frames else []",
   "    lines += _pr_traceback.format_exception_only(type(exc), exc)",
   "    return \"\".join(lines)",
   "",
   "",
   "def _pr_run(out):",
   "    namespace = \x7b\"__name__\": \"__pyrunner_test__\", \"__builtins__\": _pr_builtins\x7d",
   "    try:",
   "        exec(compile(_PR_MAIN, \"<main>\", \"exec\"), namespace)",
   "    except _PR_CAUGHT as exc:",
   "        out.write(\"Error in main code:\\n\" + _pr_describe(exc))",
   "        return \"ERROR\"",
   "    try:",
   "        exec(compile(_PR_TEST, \"<test>\", \"exec\"), namespace)",
   "    except _PR_CAUGHT as exc:",
   "        out.write(\"Error in test code:\\n\" + _pr_describe(exc))",
   "        return \"ERROR\"",
   "",
   "    if _PR_FUNCTION is None:",
   "        out.write(\"No test function found: define a function named test_<something>\\n\")",
   "        return \"ERROR\"",
   "    function = namespace.get(_PR_FUNCTION)",
   "    if function is None:",
   "        out.write(\"Test function '%s' is not defined\\n\" % _PR_FUNCTION)",
   "        return \"ERROR\"",
   "    if not callable(function):",
   "        out.write(\"'%s' is not callable\\n\" % _PR_FUNCTION)",
   "        return \"ERROR\"",
   "",
   "    try:",
   "        function()",
   "    except AssertionError as exc:",
   "        out.write(_pr_describe(exc))",
   "        return \"FAILED\"",
   "    except _PR_CAUGHT as exc:",
   "        out.write(_pr_describe(exc))",
   "        return \"ERROR\"",
   "    return \"PASSED\"",
   "",
   "",
   "def _pr_main():",
   "    out = _pr_io.StringIO()",
   "    with _pr_contextlib.redirect_stdout(out), _pr_contextlib.redirect_stderr(out):",
   "        status = _pr_run(out)",
   "    payload = \x7b\"name\": _PR_NAME, \"status\": status, \"output\": out.getvalue()\x7d",
   "    print(__START_MARKER__)",
   "    print(_pr_json.dumps(payload))",
   "    print(__END_MARKER__)",
   "",
   "",
   "_pr_main()"]

def testTemplate : String := ofRows testRows

/-- The script that runs the main code and a test source in one namespace and calls the test function. The
name comes back in the payload. -/
def testScript (name : String) (function : Option String) (main test : String) : String :=
  fill testTemplate
    [("NAME", Json.literal name),
     ("FUNCTION", (function.map Json.literal).getD "None"),
     ("MAIN", Json.literal main),
     ("TEST", Json.literal test),
     ("START_MARKER", Json.literal Markers.test.start),
     ("END_MARKER", Json.literal Markers.test.stop)]

end ScriptBench.Script
