import ScriptBench.Script.Template

/-! The program that the interpreter runs: it reads a request a line and answers with a message a line. -/
namespace ScriptBench.Script

def driverRows : List String :=
  ["\"\"\"pyrunner interpreter driver.",
   "",
   "Reads one JSON request per line from the host and answers with one JSON",
   "response per line. User code never sees the protocol streams: they are",
   "duplicated away at startup and the process-level stdin/stdout are rebound.",
   "\"\"\"",
   "",
   "import ast",
   "import builtins",
   "import contextlib",
   "import importlib",
   "import io",
   "import json",
   "import os",
   "import signal",
   "import sys",
   "import traceback",
   "import types",
   "",
   "_DRIVER_FILE = __file__ if \"__file__\" in globals() else \"<driver>\"",
   "_EXEC_FILENAME = \"<exec>\"",
   "",
   "",
   "def _open_protocol_streams():",
   "    proto_in = os.fdopen(os.dup(0), \"r\", encoding=\"utf-8\", newline=\"\\n\")",
   "    proto_out = os.fdopen(os.dup(1), \"w\", encoding=\"utf-8\", newline=\"\\n\")",
   "    devnull = os.open(os.devnull, os.O_RDONLY)",
   "    os.dup2(devnull, 0)",
   "    os.close(devnull)",
   "    # Stray fd-level writes land on stderr, which the host logs.",
   "    os.dup2(2, 1)",
   "    sys.stdin = open(os.devnull, \"r\")",
   "    return proto_in, proto_out",
   "",
   "",
   "def _send(stream, message):",
   "    stream.write(json.dumps(message) + \"\\n\")",
   "    stream.flush()",
   "",
   "",
   "def _user_traceback(exc):",
   "    if isinstance(exc, SyntaxError):",
   "        return \"\".join(traceback.format_exception_only(type(exc), exc))",
   "    tb = exc.__traceback__",
   "    while tb is not None and tb.tb_frame.f_code.co_filename == _DRIVER_FILE:",
   "        tb = tb.tb_next",
   "    return \"\".join(traceback.format_exception(type(exc), exc, tb))",
   "",
   "",
   "def _describe(exc):",
   "    try:",
   "        message = str(exc)",
   "    except BaseException:",
   "        message = \"<unprintable exception>\"",
   "    try:",
   "        raw = _user_traceback(exc)",
   "    except BaseException:",
   "        raw = \"\"",
   "    return \x7b\"kind\": type(exc).__name__, \"message\": message, \"traceback\": raw\x7d",
   "",
   "",
   "def _render(value):",
   "    if value is None:",
   "        return None",
   "    try:",
   "        return repr(value)",
   "    except BaseException:",
   "        return \"<unable to display>\"",
   "",
   "",
   "def _install_library(name, source):",
   "    sys.modules.pop(name, None)",
   "    importlib.invalidate_caches()",
   "    if source is None:",
   "        return",
   "    module = types.ModuleType(name)",
   "    module.__file__ = \"<%s>\" % name",
   "    sys.modules[name] = module",
   "    try:",
   "        exec(compile(source, module.__file__, \"exec\"), module.__dict__)",
   "    except BaseException:",
   "        sys.modules.pop(name, None)",
   "        raise",
   "",
   "",
   "def _execute(source):",
   "    tree = ast.parse(source, _EXEC_FILENAME, \"exec\")",
   "    tail = None",
   "    if tree.body and isinstance(tree.body[-1], ast.Expr):",
   "        tail = ast.Expression(tree.body.pop().value)",
   "    namespace = \x7b\"__name__\": \"__main__\", \"__builtins__\": builtins\x7d",
   "    exec(compile(tree, _EXEC_FILENAME, \"exec\"), namespace)",
   "    if tail is not None:",
   "        return eval(compile(tail, _EXEC_FILENAME, \"eval\"), namespace)",
   "    return None",
   "",
   "",
   "def _run(request):",
   "    out, err = io.StringIO(), io.StringIO()",
   "    value, error = None, None",
   "    module = request.get(\"module\") or \"library\"",
   "    with contextlib.redirect_stdout(out), contextlib.redirect_stderr(err):",
   "        signal.signal(signal.SIGINT, signal.default_int_handler)",
   "        try:",
   "            _install_library(module, request.get(\"library\"))",
   "            value = _execute(request.get(\"code\", \"\"))",
   "        except BaseException as exc:",
   "            error = exc",
   "        finally:",
   "            signal.signal(signal.SIGINT, signal.SIG_IGN)",
   "    return \x7b",
   "        \"type\": \"result\",",
   "        \"id\": request.get(\"id\"),",
   "        \"ok\": error is None,",
   "        \"stdout\": out.getvalue(),",
   "        \"stderr\": err.getvalue(),",
   "        \"value\": _render(value) if error is None else None,",
   "        \"error\": _describe(error) if error is not None else None,",
   "    \x7d",
   "",
   "",
   "def main():",
   "    signal.signal(signal.SIGINT, signal.SIG_IGN)",
   "    proto_in, proto_out = _open_protocol_streams()",
   "    _send(",
   "        proto_out,",
   "        \x7b",
   "            \"type\": \"ready\",",
   "            \"version\": sys.version.split()[0],",
   "            \"pid\": os.getpid(),",
   "        \x7d,",
   "    )",
   "    for line in proto_in:",
   "        line = line.strip()",
   "        if not line:",
   "            continue",
   "        try:",
   "            request = json.loads(line)",
   "        except ValueError as exc:",
   "            _send(proto_out, \x7b\"type\": \"invalid\", \"message\": str(exc)\x7d)",
   "            continue",
   "        op = request.get(\"op\")",
   "        if op == \"shutdown\":",
   "            break",
   "        if op != \"exec\":",
   "            _send(proto_out, \x7b\"type\": \"invalid\", \"message\": \"unknown op %r\" % (op,)\x7d)",
   "            continue",
   "        try:",
   "            response = _run(request)",
   "        except KeyboardInterrupt as exc:",
   "            signal.signal(signal.SIGINT, signal.SIG_IGN)",
   "            response = \x7b",
   "                \"type\": \"result\",",
   "                \"id\": request.get(\"id\"),",
   "                \"ok\": False,",
   "                \"stdout\": \"\",",
   "                \"stderr\": \"\",",
   "                \"value\": None,",
   "                \"error\": \x7b\"kind\": type(exc).__name__, \"message\": \"\", \"traceback\": \"\"\x7d,",
   "            \x7d",
   "        _send(proto_out, response)",
   "",
   "",
   "if __name__ == \"__main__\":",
   "    main()"]

def driver : String := ofRows driverRows

end ScriptBench.Script
