/-!
The imports that every generated script begins with.
-/
namespace WorkflowCompiler.Script

def preludeLines : List String := [
    "# -*- coding: utf-8 -*-",
    "",
    "import datetime",
    "import logging",
    "import sys",
    "import os",
    "import json",
    "import base64",
    "import uuid",
    "import time",
    "import warnings",
    "",
    "from google.cloud import bigquery",
    "from google.cloud import firestore",
    "from google.cloud import exceptions",
    "from google.oauth2 import service_account"]

def prelude : String :=
  String.join (preludeLines.map (· ++ "\n"))

end WorkflowCompiler.Script
