namespace ClientForge.TestSupport

def lines : List String :=
  ["\"\"\"Shared fixtures for the generated endpoint tests.\"\"\"",
   "",
   "from typing import Any, NamedTuple",
   "",
   "import pytest",
   "",
   "",
   "class Request(NamedTuple):",
   "    method: str",
   "    path: str",
   "    params: dict",
   "    body: Any",
   "    headers: dict | None",
   "",
   "",
   "class RecordingClient:",
   "    \"\"\"Transport stand-in that records every request instead of sending it.\"\"\"",
   "",
   "    def __init__(self, response: Any = None):",
   "        self.calls: list[Request] = []",
   "        self.response = \x7b\x7d if response is None else response",
   "",
   "    def perform_request(self, method, path, params=None, body=None, headers=None):",
   "        self.calls.append(Request(method, path, params or \x7b\x7d, body, headers))",
   "        return self.response",
   "",
   "",
   "@pytest.fixture",
   "def client():",
   "    return RecordingClient()"]

def text : String :=
  "\n".intercalate lines ++ "\n"

end ClientForge.TestSupport
