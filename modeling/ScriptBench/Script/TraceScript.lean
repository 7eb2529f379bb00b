import ScriptBench.Json.Printer
import ScriptBench.Markers
import ScriptBench.Script.Template

/-! The script that runs a program line by line and prints its trace as a payload. -/
namespace ScriptBench.Script

def traceRows : List String :=
  ["import contextlib as _pr_contextlib",
   "import io as _pr_io",
   "import json as _pr_json",
   "import sys as _pr_sys",
   "import types as _pr_types",
   "",
   "_PR_FILENAME = \"<student_code>\"",
   "_PR_SOURCE = __SOURCE__",
   "_PR_MAX_STEPS = __MAX_STEPS__",
   "_PR_PROGRAM_END = 0",
   "_PR_STRING_LIMIT = 40",
   "_PR_DEFINITION_PREFIXES = (\"def \", \"async def \", \"class \", \"@\")",
   "# Implicit frames that belong to the line that created them.",
   "_PR_INLINE_CODE = (\"<listcomp>\", \"<dictcomp>\", \"<setcomp>\", \"<genexpr>\")",
   "",
   "",
   "def _pr_render(value, depth=0):",
   "    try:",
   "        if value is None or isinstance(value, (bool, int, float)):",
   "            return repr(value)",
   "        if isinstance(value, str):",
   "            if len(value) > _PR_STRING_LIMIT:",
   "                return repr(value[:_PR_STRING_LIMIT] + \"...\")",
   "            return repr(value)",
   "        if isinstance(value, (list, tuple, set, frozenset)):",
   "            if depth > 1 or len(value) > 3:",
   "                return \"[%d items]\" % len(value)",
   "            items = [_pr_render(v, depth + 1) for v in value]",
   "            if isinstance(value, list):",
   "                return \"[\" + \", \".join(items) + \"]\"",
   "            if isinstance(value, tuple):",
   "                return \"(\" + \", \".join(items) + (\",\" if len(items) == 1 else \"\") + \")\"",
   "            return \"\x7b\" + \", \".join(items) + \"\x7d\" if items else \"set()\"",
   "        if isinstance(value, dict):",
   "            if depth > 1 or len(value) > 2:",
   "                return \"\x7b%d items\x7d\" % len(value)",
   "            return \"\x7b\" + \", \".join(",
   "                \"%s: %s\" % (_pr_render(k, depth + 1), _pr_render(v, depth + 1))",
   "                for k, v in value.items()",
   "            ) + \"\x7d\"",
   "        return \"<%s object>\" % type(value).__name__",
   "    except Exception:",
   "        return \"<unable to display>\"",
   "",
   "",
   "def _pr_visible(name, value):",
   "    if name.startswith(\"_\") or not name.isidentifier():",
   "        return False",
   "    try:",
   "        return not callable(value) and not isinstance(value, _pr_types.ModuleType)",
   "    except Exception:",
   "        return False",
   "",
   "",
   "class _PrRecorder:",
   "    def __init__(self, lines):",
   "        self.lines = lines",
   "        self.out = _pr_io.StringIO()",
   "        self.steps = []",
   "        # One [pending line, last snapshot, raised] entry per active user frame.",
   "        self.frames = []",
   "        self.module_vars = \x7b\x7d",
   "        self.truncated = False",
   "",
   "    def snapshot(self, frame):",
   "        captured = \x7b\x7d",
   "        for name, value in list(frame.f_locals.items()):",
   "            if _pr_visible(name, value):",
   "                captured[name] = _pr_render(value)",
   "        return captured",
   "",
   "    def record(self, line, depth, variables, previous):",
   "        if len(self.steps) >= _PR_MAX_STEPS:",
   "            self.truncated = True",
   "            return",
   "        changed = sorted(",
   "            name for name, shown in variables.items() if previous.get(name) != shown",
   "        )",
   "        self.steps.append(",
   "            \x7b",
   "                \"index\": len(self.steps),",
   "                \"line\": line,",
   "                \"call_depth\": depth,",
   "                \"variables\": variables,",
   "                \"changed\": changed,",
   "                \"stdout\": self.out.getvalue(),",
   "            \x7d",
   "        )",
   "",
   "    def flush_pending(self, frame):",
   "        if not self.frames or self.frames[-1][0] is None:",
   "            return",
   "        entry = self.frames[-1]",
   "        depth = len(self.frames) - 1",
   "        variables = self.snapshot(frame)",
   "        self.record(entry[0], depth, variables, entry[1])",
   "        entry[0] = None",
   "        entry[1] = variables",
   "        entry[2] = False",
   "        if depth == 0:",
   "            self.module_vars = variables",
   "",
   "    def is_definition(self, lineno):",
   "        if 0 < lineno <= len(self.lines):",
   "            return self.lines[lineno - 1].lstrip().startswith(_PR_DEFINITION_PREFIXES)",
   "        return False",
   "",
   "    def trace(self, frame, event, arg):",
   "        if frame.f_code.co_filename != _PR_FILENAME:",
   "            return None",
   "        if frame.f_code.co_name in _PR_INLINE_CODE:",
   "            return None",
   "        if event == \"call\":",
   "            self.frames.append([None, \x7b\x7d, False])",
   "            return self.local",
   "        return None",
   "",
   "    def local(self, frame, event, arg):",
   "        if self.truncated:",
   "            _pr_sys.settrace(None)",
   "            return None",
   "        if event == \"line\":",
   "            self.flush_pending(frame)",
   "            self.frames[-1][2] = False",
   "            if not self.is_definition(frame.f_lineno):",
   "                self.frames[-1][0] = frame.f_lineno",
   "        elif event == \"exception\":",
   "            self.frames[-1][2] = True",
   "        elif event == \"return\":",
   "            # A return straight after an exception means it is leaving the",
   "            # frame, so the line that raised never completed.",
   "            if self.frames and self.frames[-1][2]:",
   "                self.frames[-1][0] = None",
   "            self.flush_pending(frame)",
   "            if self.frames:",
   "                self.frames.pop()",
   "        return self.local",
   "",
   "",
   "def _pr_error_line(exc):",
   "    line = _PR_PROGRAM_END",
   "    tb = exc.__traceback__",
   "    while tb is not None:",
   "        if tb.tb_frame.f_code.co_filename == _PR_FILENAME:",
   "            line = tb.tb_lineno",
   "        tb = tb.tb_next",
   "    if isinstance(exc, SyntaxError) and exc.filename == _PR_FILENAME and exc.lineno:",
   "        line = exc.lineno",
   "    return line",
   "",
   "",
   "def _pr_main():",
   "    recorder = _PrRecorder(_PR_SOURCE.splitlines())",
   "    namespace = \x7b\"__name__\": \"__main__\", \"__builtins__\": __builtins__\x7d",
   "    error = None",
   "    try:",
   "        with _pr_contextlib.redirect_stdout(recorder.out):",
   "            code = compile(_PR_SOURCE, _PR_FILENAME, \"exec\")",
   "            _pr_sys.settrace(recorder.trace)",
   "            try:",
   "                exec(code, namespace)",
   "            finally:",
   "                _pr_sys.settrace(None)",
   "    except KeyboardInterrupt:",
   "        raise",
   "    except BaseException as exc:",
   "        error = exc",
   "",
   "    output = recorder.out.getvalue()",
   "    final = \x7b",
   "        \"index\": len(recorder.steps),",
   "        \"line\": _PR_PROGRAM_END,",
   "        \"call_depth\": 0,",
   "        \"variables\": recorder.module_vars,",
   "        \"changed\": [],",
   "        \"stdout\": output,",
   "    \x7d",
   "    recorder.steps.append(final)",
   "    if error is None:",
   "        payload = \x7b\"success\": True, \"steps\": recorder.steps, \"output\": output\x7d",
   "    else:",
   "        kind = type(error).__name__",
   "        try:",
   "            message = str(error)",
   "        except Exception:",
   "            message = \"\"",
   "        detail = \"%s: %s\" % (kind, message) if message else kind",
   "        final[\"line\"] = _pr_error_line(error)",
   "        if recorder.steps[:-1]:",
   "            final[\"variables\"] = recorder.steps[-2][\"variables\"]",
   "        final[\"stdout\"] = output + detail + \"\\n\"",
   "        payload = \x7b",
   "            \"success\": False,",
   "            \"steps\": recorder.steps,",
   "            \"output\": output,",
   "            \"error\": detail,",
   "            \"error_kind\": kind,",
   "        \x7d",
   "    payload[\"truncated\"] = recorder.truncated",
   "    print(__START_MARKER__)",
   "    print(_pr_json.dumps(payload))",
   "    print(__END_MARKER__)",
   "",
   "",
   "_pr_main()"]

def traceTemplate : String := ofRows traceRows

def programEnd : UInt32 := 0

/-- The script that traces a source and records at most so many steps. -/
def traceScript (source : String) (maxSteps : Nat) : String :=
  fill traceTemplate
    [("SOURCE", Json.literal source),
     ("MAX_STEPS", toString maxSteps),
     ("START_MARKER", Json.literal Markers.trace.start),
     ("END_MARKER", Json.literal Markers.trace.stop)]

end ScriptBench.Script
